import Passbook.Proofs.Footing.Upholds

/-! # Tasks on their footings

A task whose work upholds rules goes on to do so, whatever happens: its own moves take it from one
footing to the next and publish only what the rules admit (`Work.Upholds.moves`), and the moves of
others sway its ground (`Sound.sways_task`). A task that is followed from its beginning to the end of
a run therefore ends as its work says, or its caller has given up (`Run.follows`). -/

namespace Passbook

/-- A task that has not begun its work. -/
def Task.fresh (connections : List Nat) (deadline : Option Deadline) : Task :=
  { connections, deadline, stage := .finished, progress := [], reply := none }

/-- The ground describes the connections of a task. -/
def Ground.At (Drawn : Nat → Prop) (db : Database) : List Nat → Ground → Prop
  | [], ground => ground = .outside
  | [connection], ground => ground.Of Drawn db connection
  | _ :: _ :: _, _ => False

/-- What is published from a connection under the rules: what a transaction has kept, or what a
statement has written that may stand alone. -/
inductive Rules.Publishes (rules : Rules) (db : Database) (connection : Nat) : Ground → Books → Prop
  | draft {draft : Draft} : rules.keeps draft →
      Publishes rules db connection (.drafting draft) draft.changes
  | alone {statement : Statement} : rules.alone statement →
      Publishes rules db connection .closed (db.written connection statement)

namespace Ground.At

variable {Drawn : Nat → Prop} {db : Database} {connection : Nat} {connections : List Nat}
  {ground : Ground}

/-- Work that stands somewhere stands on its one connection. -/
theorem connected (h : ground.At Drawn db connections) (hne : ground ≠ .outside) :
    ∃ connection, connections = [connection] ∧ ground.Of Drawn db connection := by
  match connections, h with
  | [], h => exact absurd h hne
  | [connection], h => exact ⟨connection, rfl, h⟩
  | _ :: _ :: _, h => exact h.elim

/-- The numbers of an open transaction may be described in another way. -/
theorem mono {Drawn' : Nat → Prop} (h : ground.At Drawn db connections)
    (himp : ∀ draft, ground.draft? = some draft → ∀ serial, serial < db.serial → Drawn serial →
      Drawn' serial) : ground.At Drawn' db connections := by
  match connections, h with
  | [], h => exact h
  | [connection], h =>
    cases ground with
    | outside | closed | broken => exact h
    | drafting draft =>
      obtain ⟨transaction, ht, ha, hbooks, hchanges, hheld, hdrawn⟩ := h
      refine ⟨transaction, ht, ha, hbooks, hchanges, hheld, fun draw hmem => ?_⟩
      obtain ⟨hlt, hdraw, hown⟩ := hdrawn draw hmem
      exact ⟨hlt, hdraw, himp draft rfl draw.serial hlt hown⟩
  | _ :: _ :: _, h => exact h.elim

theorem of_eq {db' : Database} (h : ground.At Drawn db connections) (hbooks : db'.books = db.books)
    (hsessions : db'.sessions = db.sessions) (hlocks : db'.locks = db.locks)
    (hdraws : db'.draws = db.draws) (hserial : db.serial ≤ db'.serial) :
    ground.At Drawn db' connections := by
  match connections, h with
  | [], h => exact h
  | [connection], h => exact Ground.Of.of_eq h hbooks hsessions hlocks hdraws hserial
  | _ :: _ :: _, h => exact h.elim

theorem waits {db' : Database} {other : Nat} {statement : Statement}
    (h : ground.At Drawn db connections) (hw : db.Waits other statement db') :
    ground.At Drawn db' connections := by
  match connections, h with
  | [], h => exact h
  | [connection], h => exact Ground.Of.waits h hw
  | _ :: _ :: _, h => exact h.elim

/-- What is drawn next has not been drawn. -/
theorem fresh (h : ground.At Drawn db connections) : ground.Fresh db.draw := by
  cases ground with
  | outside | closed | broken => exact trivial
  | drafting draft =>
    obtain ⟨connection, -, -, -, -, -, -, -, hdrawn⟩ := h.connected nofun
    intro hmem
    obtain ⟨draw, hdraw, hserial⟩ := List.mem_map.mp hmem
    exact Nat.ne_of_lt (hdrawn draw hdraw).1 hserial

theorem drew (h : ground.At Drawn db connections) (hown : Drawn db.serial) :
    (ground.drew db.draw).At Drawn { db with serial := db.serial + 1 } connections := by
  have hcounted : ground.At Drawn { db with serial := db.serial + 1 } connections :=
    h.of_eq rfl rfl rfl rfl (Nat.le_succ _)
  cases ground with
  | outside | closed | broken => exact hcounted
  | drafting draft =>
    obtain ⟨connection, rfl, transaction, ht, ha, hbooks, hchanges, hheld, hdrawn⟩ :=
      hcounted.connected nofun
    refine ⟨transaction, ht, ha, hbooks, hchanges, hheld, ?_⟩
    intro draw hmem
    rcases List.mem_cons.mp hmem with rfl | hmem
    · exact ⟨Nat.lt_succ_self _, rfl, hown⟩
    · exact hdrawn draw hmem

end Ground.At

namespace System

open Database

variable {rules : Rules} {Ends : Footing → Reply → Prop} {Drawn Drawn' : Nat → Prop}
  {system after : System} {event : Event} {index : Nat} {task task' : Task} {footing : Footing}

/-- What has become of a task whose work was carried on: it waits for something and goes on to uphold
the rules, or it is finished and has ended as it should. -/
inductive Settles (rules : Rules) (Ends : Footing → Reply → Prop) (deadline : Option Deadline)
    (told : Option Reply) (footing : Footing) (task : Task) : Prop
  | waits : task.stage.isFinished = false → task.reply = told → task.deadline = deadline →
      task.stage.work.Upholds rules Ends footing → Settles rules Ends deadline told footing task
  | ends (reply : Reply) : task.stage.isFinished = true → task.reply = (told <|> some reply) →
      Ends footing reply → Settles rules Ends deadline told footing task

theorem settles_proceed (system : System) (task : Task) {work : Work Reply}
    (h : work.Upholds rules Ends footing)
    (hat : footing.ground.At Drawn system.db task.connections)
    (hdrawn : ∀ serial, system.db.serial ≤ serial → Drawn serial) :
    ∃ ground, ground.At Drawn (system.proceed task work).1.db
        (system.proceed task work).2.connections ∧
      (footing.ground.draft? = none → ground.draft? = none) ∧
      Settles rules Ends task.deadline task.reply ⟨footing.published, ground⟩
        (system.proceed task work).2 := by
  induction work generalizing system task footing with
  | done reply => exact ⟨footing.ground, hat, id, .ends reply rfl rfl h⟩
  | connect next => exact ⟨footing.ground, hat, id, .waits rfl rfl rfl h⟩
  | exec statement next => exact ⟨footing.ground, hat, id, .waits rfl rfl rfl h⟩
  | giveBack rest ih =>
    obtain ⟨connection, hconnection, -⟩ := hat.connected h.1
    have hserial : (system.giveBack connection).db.serial = system.db.serial := by
      unfold giveBack
      dsimp only
      split <;> rfl
    obtain ⟨ground, hground, hdraft, hsettles⟩ :=
      ih (system.giveBack connection) { task with connections := [] } h.2 rfl
        (by rw [hserial]; exact hdrawn)
    unfold proceed
    rw [hconnection]
    exact ⟨ground, hground, fun _ => hdraft rfl, hsettles⟩
  | draw next ih =>
    obtain ⟨ground, hground, hdraft, hsettles⟩ :=
      ih system.db.draw { system with db.serial := system.db.serial + 1 } task (h _ hat.fresh) (hat.drew (hdrawn _ (Nat.le_refl _)))
        fun serial hle => hdrawn serial (Nat.le_of_succ_le hle)
    refine ⟨ground, hground, fun hnone => hdraft ?_, hsettles⟩
    rw [Ground.draft?_drew, hnone]
    rfl
  | report reply rest ih =>
    exact ih system { task with progress := task.progress ++ [reply] } h hat hdrawn

/-- Nobody is there any more to hear how the work ends; the connection is given back. -/
def Leaves (footing : Footing) (_ : Reply) : Prop := footing.ground = .outside

theorem upholds_leave (rules : Rules)
    (hat : footing.ground.At Drawn system.db task.connections) :
    task.leave.Upholds rules Leaves footing := by
  unfold Task.leave
  match hc : task.connections, hat with
  | [], hat => exact hat
  | [connection], hat =>
    refine ⟨?_, rfl⟩
    intro hground
    rw [hground] at hat
    exact hat.elim
  | _ :: _ :: _, hat => exact hat.elim

/-- The statement that is under way when the caller gives up is the last one. -/
theorem upholds_leftBehind {statement : Statement} {next : statement.Answer → Work Reply}
    (h : (Work.exec statement next).Upholds rules Ends footing)
    (hat : footing.ground.At Drawn system.db task.connections) (hend : statement.isEnd = false) :
    (Work.exec statement fun _ => task.leave).Upholds rules.leaving Leaves footing := by
  have hne : footing.ground ≠ .outside := by
    intro hground
    have hallows := (h footing.ground (.same _)).1
    rw [hground] at hallows
    exact hallows
  obtain ⟨connection, hc, -⟩ := hat.connected hne
  have hleave : task.leave = .giveBack (.done .done) := by simp [Task.leave, hc]
  have hcommit : statement ≠ .commit := by
    rintro rfl
    cases hend
  intro ground hsways
  obtain ⟨hallows, hquits, -⟩ := h ground hsways
  refine ⟨?_, hquits, fun answer after hhears => ?_⟩
  · cases ground with
    | outside | closed => exact hallows
    | drafting | broken => exact ⟨hallows.1, fun hc => absurd hc hcommit⟩
  · rw [hleave]
    refine ⟨?_, rfl⟩
    cases hhears <;> simp

/-! ## The moves of the task -/

/-- How a task moves: it goes on, or its caller gives up and it leaves. -/
inductive Carries (rules : Rules) (Ends : Footing → Reply → Prop) (task : Task)
    (published : List Books) (footing : Footing) (task' : Task) : Prop
  | on : Settles rules Ends task.deadline task.reply footing task' →
      Carries rules Ends task published footing task'
  | quit (deadline : Deadline) : task.deadline = some deadline → rules.quits published →
      footing.published = published →
      Settles rules.leaving Leaves none (task.reply <|> some (.failed (.timeout deadline.unit)))
        footing task' →
      Carries rules Ends task published footing task'

/-- A task that upholds the rules publishes only what they admit. -/
theorem publishes_of_told {told : Told} {db : Database} {Allowed : Twist → Prop}
    (hallows : rules.Allows told.statement footing.ground)
    (hof : footing.ground.Of Drawn system.db told.connection)
    (htells : system.db.Tells Allowed told.connection told.statement db told.ran told.answer)
    (htold : system.told? event = some told) {publication : Nat × Books}
    (hp : system.publication? event = some publication) :
    publication.1 = told.connection ∧
      rules.Publishes system.db publication.1 footing.ground publication.2 := by
  rw [publication?_of_told htold] at hp
  split at hp
  · rename_i hran
    obtain ⟨books, hbooks, rfl⟩ := Option.map_eq_some_iff.mp hp
    refine ⟨rfl, ?_⟩
    have hcases := published?_cases hbooks
    cases hground : footing.ground with
    | outside => rw [hground] at hallows; exact hallows.elim
    | closed =>
      rw [hground] at hallows hof
      have hnone : system.db.transaction? told.connection = none := hof
      rcases hcases with ⟨_, ht, -⟩ | ⟨-, hw, rfl⟩
      · cases hnone.symm.trans ht
      · exact .alone (hallows hw)
    | broken =>
      rw [hground] at hof
      rcases hof with hdead | ⟨transaction, ht, ha⟩
      · cases hran.symm.trans (htells.of_dead hdead).2.1
      · rcases hcases with ⟨_, ht', -, hopen, -⟩ | ⟨hnone, -⟩
        · cases ht.symm.trans ht'
          cases ha.symm.trans hopen
        · cases hnone.symm.trans ht
    | drafting draft =>
      rw [hground] at hallows hof
      obtain ⟨transaction, ht, ha, -, hchanges, -⟩ := hof
      rcases hcases with ⟨_, ht', hcommit, -, rfl⟩ | ⟨hnone, -⟩
      · cases ht.symm.trans ht'
        rw [← hchanges]
        exact .draft (hallows.2 hcommit)
      · cases hnone.symm.trans ht
  · cases hp

/-- All that a move of a task comes to that upholds the rules. -/
structure Proceeds (rules : Rules) (Ends : Footing → Reply → Prop) (Drawn : Nat → Prop)
    (system : System) (event : Event) (task : Task) (footing : Footing) (after : System)
    (task' : Task) (ground : Ground) : Prop where
  stands : ground.At Drawn after.db task'.connections
  carries : Carries rules Ends task footing.published
    ⟨footing.published ++ ((system.publication? event).map (·.2)).toList, ground⟩ task'
  publishes : ∀ publication, system.publication? event = some publication →
    publication.1 ∈ task.connections ∧
      rules.Publishes system.db publication.1 footing.ground publication.2 ∧ ground.draft? = none

/-- Nothing is published. -/
theorem Proceeds.of_silent {ground : Ground} (hsilent : system.told? event = none)
    (hat : ground.At Drawn after.db task'.connections)
    (h : Carries rules Ends task footing.published ⟨footing.published, ground⟩ task') :
    Proceeds rules Ends Drawn system event task footing after task' ground := by
  have hnone := publication?_of_told_none hsilent
  refine ⟨hat, ?_, fun publication hp => ?_⟩
  · rw [hnone]
    simpa using h
  · rw [hnone] at hp
    cases hp

theorem settles_carryOn (met : System) (index : Nat) (task : Task) {work : Work Reply}
    (hlt : index < met.tasks.length) (h : work.Upholds rules Ends footing)
    (hat : footing.ground.At Drawn met.db task.connections)
    (hdrawn : ∀ serial, met.db.serial ≤ serial → Drawn serial) :
    ∃ task' ground, (met.carryOn index task work).tasks[index]? = some task' ∧
      ground.At Drawn (met.carryOn index task work).db task'.connections ∧
      (footing.ground.draft? = none → ground.draft? = none) ∧
      Settles rules Ends task.deadline task.reply ⟨footing.published, ground⟩ task' := by
  obtain ⟨ground, hground, hdraft, hsettles⟩ := settles_proceed met task h hat hdrawn
  exact ⟨_, ground, getElem?_carryOn_self hlt task work, hground, hdraft, hsettles⟩

section

variable {move : Move} (hsound : system.Sound) (ht : system.tasks[move.index]? = some task)
  (hat : footing.ground.At Drawn system.db task.connections)
  (hdrawn : ∀ serial, system.db.serial ≤ serial → Drawn serial)
  (hs : system.step (.move move) = some after)
include hsound ht hat hdrawn hs

theorem proceeds_of_exec {statement : Statement} {next : statement.Answer → Work Reply}
    (hw : task.stage.work = .exec statement next)
    (h : (Work.exec statement next).Upholds rules Ends footing) :
    ∃ task' ground, after.tasks[move.index]? = some task' ∧
      Proceeds rules Ends Drawn system (.move move) task footing after task' ground := by
  have hlt := (List.getElem?_eq_some_iff.mp ht).1
  obtain ⟨hallows, hquits, hnext⟩ := h footing.ground (.same _)
  have hne : footing.ground ≠ .outside := by
    intro hground
    rw [hground] at hallows
    exact hallows
  obtain ⟨connection, hc, hof⟩ := hat.connected hne
  have hhead : task.connections.head? = some connection := by rw [hc]; rfl
  rcases step_of_exec hsound.twists hsound.underway ht hhead hw hs with hheard |
    ⟨deadline, hdeadline, hend, hmove, ⟨-, rfl⟩ | ⟨twist, hold, hstage, rfl⟩⟩
  · cases hheard with
    | @held db faults twist hold hsilent _ _ _ hdb =>
      exact ⟨_, footing.ground, List.getElem?_set_self hlt, .of_silent hsilent (hat.waits hdb)
        (.on (.waits rfl rfl rfl h))⟩
    | @told db faults ran answer htold _ htells =>
      obtain ⟨ground, hground, hhears⟩ :=
        hof.lands htells hsound.custody hallows.begin footing.published
      have hpublications : ((system.publication? (.move move)).map (·.2)).toList =
          (if ran then system.db.published? connection statement else none).toList := by
        rw [publication?_of_told htold]
        split
        · rw [Option.map_map]
          exact congrArg _ (Option.map_id' ..)
        · rfl
      rw [← hpublications] at hhears
      obtain ⟨task', ground', htask', hat', hdraft, hsettles⟩ :=
        settles_carryOn { system with db, faults } move.index task hlt (hnext answer _ hhears)
          (by rw [hc]; exact hground)
          fun serial hle => hdrawn serial (Nat.le_trans htells.serial_le hle)
      refine ⟨task', ground', htask', hat', .on hsettles, fun publication hp => ?_⟩
      obtain ⟨hconnection, hpublishes⟩ := publishes_of_told hallows hof htells htold hp
      refine ⟨by rw [hc, hconnection]; exact List.mem_cons_self, hpublishes, hdraft ?_⟩
      rcases hhears.draft?_of_published with heq | hnone
      · rw [hp] at heq
        simp at heq
      · exact hnone
  · obtain ⟨task', ground, htask', hat', -, hsettles⟩ :=
      settles_carryOn system move.index
        { task with
          deadline := none
          reply := task.reply <|> some (.failed (.timeout deadline.unit)) }
        hlt (upholds_leave rules.leaving hat) hat hdrawn
    exact ⟨task', ground, htask', .of_silent (by rw [hmove]; rfl) hat'
      (.quit deadline hdeadline (hquits hend) rfl hsettles)⟩
  · exact ⟨_, footing.ground, List.getElem?_set_self hlt, .of_silent (by rw [hmove]; rfl) hat
      (.quit deadline hdeadline (hquits hend) rfl
        (.waits rfl rfl rfl (upholds_leftBehind h hat hend)))⟩

theorem proceeds_of_connect {next : Except StorageError Unit → Work Reply}
    (hw : task.stage.work = .connect next) (h : (Work.connect next).Upholds rules Ends footing) :
    ∃ task' ground, after.tasks[move.index]? = some task' ∧
      Proceeds rules Ends Drawn system (.move move) task footing after task' ground := by
  have hlt := (List.getElem?_eq_some_iff.mp ht).1
  have htask : ∀ {other}, system.tasks[move.index]? = some other → task = other :=
    fun hother => Option.some.inj (ht.symm.trans hother)
  obtain ⟨hground, hquits, herror, hok⟩ := h
  have hempty : task.connections = [] := by
    rw [hground] at hat
    match task.connections, hat with
    | [], _ => rfl
    | _ :: _ :: _, hat => exact hat.elim
  have hsilent : ∀ {silent : Move}, move = silent → system.arrival? silent = none →
      system.told? (.move move) = none := by
    rintro _ rfl hnone
    rw [told?, hnone]
    rfl
  cases System.moves hsound.twists hs with
  | connected hmove hother hw' =>
    obtain rfl := htask hother
    cases hw.symm.trans hw'
    have hfresh : system.db.transaction? system.nextConnection = none := by
      rw [transaction?, hsound.orderly.fresh _ fun hmem =>
        Nat.lt_irrefl _ (hsound.orderly.lt_next _ hmem)]
      rfl
    obtain ⟨task', ground, htask', hat', -, hsettles⟩ :=
      settles_carryOn
        { system with
          inUse := system.nextConnection :: system.inUse
          nextConnection := system.nextConnection + 1 }
        move.index { task with connections := system.nextConnection :: task.connections } hlt hok
        (by rw [hempty]; exact hfresh) hdrawn
    exact ⟨task', ground, htask', .of_silent (hsilent hmove rfl) hat' (.on hsettles)⟩
  | turnedAway error hmove hother hw' =>
    obtain rfl := htask hother
    cases hw.symm.trans hw'
    obtain ⟨task', ground, htask', hat', -, hsettles⟩ :=
      settles_carryOn system move.index task hlt (herror error) hat hdrawn
    exact ⟨task', ground, htask', .of_silent (hsilent hmove rfl) hat' (.on hsettles)⟩
  | arrived _ ha =>
    have hstage := ha.stage
    rw [← htask ha.task] at hstage
    cases hw.symm.trans hstage
  | @gaveUp _ deadline hmove hother hdeadline =>
    obtain rfl := htask hother
    obtain ⟨task', ground, htask', hat', -, hsettles⟩ :=
      settles_carryOn system move.index
        { task with
          deadline := none
          reply := task.reply <|> some (.failed (.timeout deadline.unit)) }
        hlt (upholds_leave rules.leaving hat) hat hdrawn
    exact ⟨task', ground, htask', .of_silent (hsilent hmove rfl) hat'
      (.quit deadline hdeadline hquits rfl hsettles)⟩
  | leftBehind _ hother _ hstage =>
    obtain rfl := htask hother
    rw [hstage] at hw
    cases hw

/-- A move takes a task that upholds the rules to its next footing. -/
theorem proceeds (hf : task.stage.isFinished = false)
    (h : task.stage.work.Upholds rules Ends footing) :
    ∃ task' ground, after.tasks[move.index]? = some task' ∧
      Proceeds rules Ends Drawn system (.move move) task footing after task' ground := by
  cases hw : task.stage.work with
  | exec statement next => exact proceeds_of_exec hsound ht hat hdrawn hs hw (hw ▸ h)
  | connect next => exact proceeds_of_connect hsound ht hat hdrawn hs hw (hw ▸ h)
  | _ => cases hstage : task.stage <;> simp_all [Stage.work, Stage.isFinished]

end

/-! ## The moves of others -/

/-- What others leave as it is about a task. -/
structure Stays (task task' : Task) : Prop where
  connections : task'.connections = task.connections
  isFinished : task'.stage.isFinished = task.stage.isFinished
  work : task'.stage.work = task.stage.work
  deadline : task'.deadline = task.deadline
  reply : task'.reply = task.reply

theorem stays_of_step (hs : system.step event = some after) (ht : system.tasks[index]? = some task)
    (hm : event.mover? ≠ some index) :
    ∃ task', after.tasks[index]? = some task' ∧ Stays task task' := by
  rcases getElem?_step hs ht hm with ht' | ⟨-, ht'⟩
  · exact ⟨task, ht', rfl, rfl, rfl, rfl, rfl⟩
  · refine ⟨_, ht', rfl, ?_, Stage.work_unstall .., rfl, rfl⟩
    dsimp only
    rcases task.stage with _ | _ | ⟨_, _, _, _ | _ | _⟩ | _ <;> rfl

/-- An event sways the ground of a connection at most that it does not touch. -/
theorem Sound.sways (hsound : system.Sound) (hkeys : system.KeysFree event)
    (hs : system.step event = some after) {connection : Nat} {ground : Ground}
    (hc : connection ∉ system.touched event) (hlt : connection < system.nextConnection)
    (hof : ground.Of Drawn system.db connection) :
    ∃ ground', ground.Sways ground' ∧ ground'.Of Drawn after.db connection :=
  hof.of_untouched (spares_step hs hc hlt).untouched
    (fun _ howns => steady_step hsound.underway hsound.orderly.locks hsound.custody hkeys hs hc howns)
    (serial_le_step hsound.underway hs)

/-- The moves of others sway the ground of a task at most. -/
theorem Sound.sways_task (hsound : system.Sound) (hkeys : system.KeysFree event)
    (hs : system.step event = some after) (ht : system.tasks[index]? = some task)
    (hf : task.stage.isFinished = false) (hm : event.mover? ≠ some index) {ground : Ground}
    (hat : ground.At Drawn system.db task.connections) :
    ∃ ground', ground.Sways ground' ∧ ground'.At Drawn after.db task.connections := by
  have hclaims := Task.claims_eq hf
  match hc : task.connections, hat with
  | [], hat => exact ⟨ground, .same ground, hat⟩
  | [connection], hat =>
    have hmem : connection ∈ task.claims := by
      rw [hclaims, hc]
      exact List.mem_cons_self
    exact hsound.sways hkeys hs (not_touched_of_claims hsound.orderly hs ht hmem hm)
      (hsound.orderly.lt_next _ (hsound.orderly.inUse_of_claims ht hmem)) hat
  | _ :: _ :: _, hat => exact hat.elim

/-- What a task that is not finished goes on to do does not depend on how its ground sways. -/
theorem upholds_of_sways {ground : Ground} (hf : task.stage.isFinished = false)
    (h : task.stage.work.Upholds rules Ends footing) (hsways : footing.ground.Sways ground) :
    task.stage.work.Upholds rules Ends ⟨footing.published, ground⟩ := by
  cases hstage : task.stage with
  | queued =>
    rw [hstage] at h
    obtain ⟨hground, hrest⟩ := h
    obtain ⟨published, former⟩ := footing
    cases hground
    cases hsways
    exact ⟨rfl, hrest⟩
  | ready | sent =>
    rw [hstage] at h
    exact h.sways hsways
  | finished =>
    rw [hstage] at hf
    cases hf

end System

end Passbook
