import Passbook.Proofs.UnitOfWork.Bodies
import Passbook.System.Schedule

/-! # Units of work are all or nothing

In every run, whatever else goes on in it and whatever disturbs it, a unit of work publishes all that
it has written at once or nothing at all, and its caller is told what is true
(`unit_allOrNothing`). The invariant is `Progress`: where the unit stands, with an account of its
transaction as long as it has one and of its outcome once it is over. -/

namespace Passbook

namespace UnitOfWork

open Passbook.System

/-- Where a unit stands in a run, and what it has come to. -/
inductive Progress (unit : UnitOfWork) (past : Past) (system : System) (index : Nat) : Prop
  | waiting {task : Task} : system.tasks[index]? = some task → Waiting unit task →
      past.Unmoved index → Progress unit past system index
  | dismissed {task : Task} {failure : Failure} : system.tasks[index]? = some task →
      task.stage.isFinished = true → task.reply = some (.failed failure) →
      failure.isOutcomeUnknown = false → ¬ past.Sent index .commit →
      (∀ connection, ¬ past.Took index connection) → Progress unit past system index
  | asking {task : Task} {connection : Nat} {phase : Phase} : system.tasks[index]? = some task →
      Asking unit task connection phase →
      phase.Obeys (fun statement => statement.isQuery = true) Honest →
      Stands past system.db index connection phase → past.publicationsOf connection = [] →
      (past.Sent index .commit ↔ task.stage.underWay? = some .commit) →
      (∀ other, past.Took index other ↔ other = connection) → Progress unit past system index
  | left {task : Task} {connection : Nat} {statement : Statement} {failure : Failure} :
      system.tasks[index]? = some task → Leaving task connection statement →
      statement.isEnd = false → system.db.Silent connection statement →
      task.reply = some (.failed failure) → failure.isOutcomeUnknown = false →
      past.publicationsOf connection = [] → ¬ past.Sent index .commit →
      (∀ other, past.Took index other ↔ other = connection) → Progress unit past system index
  | ended {task : Task} {connection : Nat} {reply : Reply} : system.tasks[index]? = some task →
      task.stage.isFinished = true → task.reply = some reply → Behind system connection →
      unit.Outcome past index connection reply →
      (∀ other, past.Took index other ↔ other = connection) → Progress unit past system index

variable {unit : UnitOfWork} {past : Past} {system after : System} {event : Event}
  {index connection : Nat} {task : Task}

/-- Only the task that moves sends the commit. -/
theorem sent_heard {statement : Statement} {next : statement.Answer → Work Reply}
    (hw : task.stage.work = .exec statement next)
    (hcommit : past.Sent index .commit ↔ task.stage.underWay? = some .commit)
    (hsent : system.sent? event = if task.stage.isSent then none else some (index, statement)) :
    Past.Sent (past ++ [(system, event)]) index .commit ↔ statement = .commit := by
  rw [Past.sent_concat, hcommit, hsent, Stage.underWay?_of_work hw]
  cases task.stage.isSent <;> simp

theorem not_sent_abandoned {statement : Statement} {next : statement.Answer → Work Reply}
    (hw : task.stage.work = .exec statement next) (hend : statement.isEnd = false)
    (hcommit : past.Sent index .commit ↔ task.stage.underWay? = some .commit)
    (hsent : system.sent? event = none) :
    ¬ Past.Sent (past ++ [(system, event)]) index .commit := by
  have hc : statement ≠ .commit := by
    rintro rfl
    cases hend
  rw [Past.sent_concat, hcommit, hsent, Stage.underWay?_of_work hw]
  cases task.stage.isSent <;> simp [hc]

namespace Progress

/-- Events that move other tasks change nothing about it. -/
theorem step_other (h : unit.Progress past system index) (ho : Orderly [] [] system)
    (hu : system.Underway) (hs : system.step event = some after) (hm : event.mover? ≠ some index) :
    unit.Progress (past ++ [(system, event)]) after index := by
  have hw := Past.writes_of_not_moved past system hm
  have hr := Past.refused_of_not_moved past system hm
  have hsent : Past.Sent (past ++ [(system, event)]) index .commit ↔ past.Sent index .commit :=
    Past.sent_of_not_moved past system hm
  have htook : ∀ connection, Past.Took (past ++ [(system, event)]) index connection ↔
      past.Took index connection := fun _ => Past.took_of_not_moved past system hm
  cases h with
  | waiting ht hwait hpast =>
    obtain ⟨task', ht', hwait'⟩ := hwait.of_step hs ht hm
    exact .waiting ht' hwait' (hpast.concat system hm)
  | dismissed ht hf hreply hhonest hno hnone =>
    exact .dismissed (finished_of_step hs ht hf) hf hreply hhonest (mt hsent.mp hno)
      fun connection => mt (htook connection).mp (hnone connection)
  | @asking task connection phase ht hask hphase hstands hpub hcommit hone =>
    have htouched := not_touched_of_claims ho hs ht hask.mem_claims hm
    have hspares := spares_of_claims ho hs ht hask.mem_claims hm
    obtain ⟨task', ht', hask', hway⟩ := hask.of_step hs ht hm
    refine .asking ht' hask' hphase (hstands.congr hspares.untouched.transaction? hspares.untouched.alive hw hr) ?_ ?_ ?_
    · rw [Past.publicationsOf_of_not_touched past htouched, hpub]
    · rw [hsent, hway, hcommit]
    · intro other
      rw [htook, hone]
  | @left task connection statement failure ht hl hend hsilent hreply hhonest hpub hno hone =>
    have htouched := not_touched_of_claims ho hs ht hl.mem_claims hm
    have hspares := spares_of_claims ho hs ht hl.mem_claims hm
    obtain ⟨task', ht', hl', hreply'⟩ := hl.of_step hs ht hm
    refine .left ht' hl' hend (hsilent.of_untouched hspares.untouched) (hreply'.trans hreply)
      hhonest ?_ (mt hsent.mp hno) ?_
    · rw [Past.publicationsOf_of_not_touched past htouched, hpub]
    · intro other
      rw [htook, hone]
  | ended ht hf hreply hbehind houtcome hone =>
    obtain ⟨hbehind', hne⟩ := hbehind.step ho hu hs
    refine .ended (finished_of_step hs ht hf) hf hreply hbehind'
      (houtcome.of_past (Past.publicationsOf_of_ne past hne) hw hr hsent) fun other => ?_
    rw [htook, hone]

/-- The moves of a unit that waits for a connection. -/
theorem step_waiting (ht : system.tasks[index]? = some task) (hwait : Waiting unit task)
    (hpast : past.Unmoved index) (hfree : past.publicationsOf system.nextConnection = [])
    (ho : Orderly [] [] system) (hs : system.step event = some after)
    (hm : event.mover? = some index) :
    unit.Progress (past ++ [(system, event)]) after index := by
  obtain ⟨move, rfl, rfl⟩ := mover?_eq_some hm
  have hlen := (List.getElem?_eq_some_iff.mp ht).1
  cases hwait.goes ht hs with
  | connected hmove _ hasks =>
    have htold : system.told? (.move move) = none := by rw [hmove]; rfl
    have hsent : system.sent? (.move move) = none := by rw [hmove]; rfl
    have htaken : system.taken? (.move move) = some (move.index, system.nextConnection) := by
      rw [hmove]
      rfl
    refine .asking (getElem?_setTask_self hlen _) ⟨rfl, hwait.reply, _, _, rfl, hasks⟩ trivial
      ⟨?_, ?_, ?_⟩ ?_ ?_ ?_
    · have hfresh := ho.fresh _ fun hin => Nat.lt_irrefl _ (ho.lt_next _ hin)
      change (system.db.session system.nextConnection).transaction = none
      rw [hfresh]
      rfl
    · rw [Past.writes_of_told_none past htold, hpast.writes]
    · rw [Past.refused_of_told_none past htold, hpast.refused]
    · rw [Past.publicationsOf_of_told_none past htold, hfree]
    · rw [Past.sent_concat, hsent]
      exact iff_of_false (by simpa using hpast.sent .commit) nofun
    · intro other
      rw [Past.took_concat, htaken]
      simp [hpast.took other, eq_comm]
  | dismissed deadline failure hunknown _ hmove =>
    have hsent : system.sent? (.move move) = none := by
      rcases hmove with ⟨_, hmove, -⟩ | hmove <;> rw [hmove] <;> rfl
    have htaken : system.taken? (.move move) = none := by
      rcases hmove with ⟨_, hmove, -⟩ | hmove <;> rw [hmove] <;> rfl
    refine .dismissed (getElem?_setTask_self hlen _) rfl rfl ?_ ?_ fun connection => ?_
    · cases failure <;> first | rfl | exact absurd rfl (hunknown _ _)
    · rw [Past.sent_concat, hsent]
      simpa using hpast.sent .commit
    · rw [Past.took_concat, htaken]
      simpa using hpast.took connection

/-- The moves of a unit at work. -/
theorem step_asking {phase : Phase} (ht : system.tasks[index]? = some task)
    (hask : Asking unit task connection phase) (hbody : IsBody unit.body.run)
    (hphase : phase.Obeys (fun statement => statement.isQuery = true) Honest)
    (hstands : Stands past system.db index connection phase)
    (hpub : past.publicationsOf connection = [])
    (hcommit : past.Sent index .commit ↔ task.stage.underWay? = some .commit)
    (hone : ∀ other, past.Took index other ↔ other = connection)
    (ho : Orderly [] [] system) (hu : system.Underway) (hs : system.step event = some after)
    (hm : event.mover? = some index) :
    unit.Progress (past ++ [(system, event)]) after index := by
  obtain ⟨move, rfl, rfl⟩ := mover?_eq_some hm
  have hlen := (List.getElem?_eq_some_iff.mp ht).1
  have hin := ho.inUse_of_claims ht hask.mem_claims
  have htook : ∀ other, Past.Took (past ++ [(system, .move move)]) move.index other ↔
      other = connection := by
    obtain ⟨_, _, hw, -⟩ := hask.asks
    exact fun other => (took_of_exec past hs ht hw other).trans (hone other)
  have hbehind : ∀ db faults task', Behind
      (({ system with db, faults }.giveBack connection).setTask move.index task') connection :=
    fun _ _ _ => behind_giveBack (by exact ho.nodup) (by exact ho.lt_next _ hin) (by exact hlen) _
  have hplace : ∀ db faults task', (({ system with db, faults }.giveBack connection).setTask
      move.index task').tasks[move.index]? = some task' :=
    fun db faults => @getElem?_setTask_giveBack { system with db, faults } _ hlen connection
  cases hask.goes hbody hphase (Twists.any system) hu ht hs with
  | held twist hold hw hasks htold hsent _ _ hdb =>
    refine .asking (getElem?_setTask_self hlen _) ⟨hask.connections, hask.reply, _, _, rfl, hasks⟩
      hphase (hstands.waits hdb htold) ?_ ?_ htook
    · rw [Past.publicationsOf_of_told_none past htold, hpub]
    · rw [sent_heard hw hcommit hsent]
      simp [Stage.underWay?]
  | turned ran answer hw hasks htold hsent htells hturn hasks' =>
    have hc := hturn.ne_commit hphase
    refine .asking (getElem?_setTask_self hlen _) ⟨hask.connections, hask.reply, _, _, rfl, hasks'⟩
      (hturn.obeys hbody hphase)
      ((hstands.turned hphase htold htells hturn).congr rfl rfl rfl rfl) ?_ ?_ htook
    · have hp := Past.publicationsOf_of_told past htold
      dsimp only at hp
      rw [hp, hpub, (hstands.silent hphase hasks hc).not_published htells]
      rfl
    · rw [sent_heard hw hcommit hsent]
      exact iff_of_false hc nofun
  | ended ran answer hw _ htold hsent htells hends =>
    exact .ended (hplace ..) rfl rfl (hbehind ..)
      (hstands.ended hphase hpub htold htells (sent_heard hw hcommit hsent) hends) htook
  | quit deadline hw hasks hend hmove hdue =>
    have htold : system.told? (.move move) = none := by rw [hmove]; rfl
    have hsent : system.sent? (.move move) = none := by rw [hmove]; rfl
    refine .ended (hplace system.db system.faults _) rfl rfl (hbehind system.db system.faults _)
      (.failed rfl (not_sent_abandoned hw hend hcommit hsent) ?_) htook
    rw [Past.publicationsOf_of_told_none past htold, hpub]
  | left deadline twist hold hw hasks hend hmove hdue hstage =>
    have htold : system.told? (.move move) = none := by rw [hmove]; rfl
    have hsent : system.sent? (.move move) = none := by rw [hmove]; rfl
    have hsilent := hstands.silent hphase hasks (by rintro rfl; cases hend)
    refine .left (getElem?_setTask_self hlen _) ⟨hask.connections, rfl, rfl⟩ hend hsilent rfl rfl ?_
      (not_sent_abandoned hw hend hcommit hsent) htook
    rw [Past.publicationsOf_of_told_none past htold, hpub]

/-- The moves of a unit whose caller has gone while a statement was under way. -/
theorem step_left {statement : Statement} {failure : Failure}
    (ht : system.tasks[index]? = some task) (hl : Leaving task connection statement)
    (hend : statement.isEnd = false) (hsilent : system.db.Silent connection statement)
    (hreply : task.reply = some (.failed failure)) (hhonest : failure.isOutcomeUnknown = false)
    (hpub : past.publicationsOf connection = []) (hno : ¬ past.Sent index .commit)
    (hone : ∀ other, past.Took index other ↔ other = connection)
    (ho : Orderly [] [] system) (hu : system.Underway) (hs : system.step event = some after)
    (hm : event.mover? = some index) :
    unit.Progress (past ++ [(system, event)]) after index := by
  obtain ⟨move, rfl, rfl⟩ := mover?_eq_some hm
  have hlen := (List.getElem?_eq_some_iff.mp ht).1
  have hin := ho.inUse_of_claims ht hl.mem_claims
  have htook : ∀ other, Past.Took (past ++ [(system, .move move)]) move.index other ↔
      other = connection :=
    fun other => (took_of_exec past hs ht hl.work other).trans (hone other)
  have hno' : system.sent? (.move move) =
      (if task.stage.isSent then none else some (move.index, statement)) →
        ¬ Past.Sent (past ++ [(system, .move move)]) move.index .commit := by
    intro hsent
    have hc : statement ≠ .commit := by
      rintro rfl
      cases hend
    rw [Past.sent_concat, hsent]
    cases task.stage.isSent <;> simp [hc, hno]
  cases hl.goes (Twists.any system) hu ht hs with
  | held twist hold htold hsent _ _ hdb =>
    refine .left (getElem?_setTask_self hlen _) ⟨hl.connections, hl.deadline, rfl⟩ hend ?_ hreply
      hhonest ?_ (hno' hsent) htook
    · exact hsilent.waits hdb
    · rw [Past.publicationsOf_of_told_none past htold, hpub]
  | @told db faults ran answer htold hsent htells =>
    have hp := Past.publicationsOf_of_told past htold
    dsimp only at hp
    rw [hpub, hsilent.not_published htells] at hp
    have hplace := @getElem?_setTask_giveBack { system with db, faults } _ hlen connection
    refine .ended (hplace _) rfl (by rw [hreply]; rfl)
      (behind_giveBack (by exact ho.nodup) (by exact ho.lt_next _ hin) (by exact hlen) _)
      (.failed hhonest (hno' hsent) hp) htook

/-- Every event keeps the account of a unit. -/
theorem step (h : unit.Progress past system index) (hbody : IsBody unit.body.run)
    (hfree : past.publicationsOf system.nextConnection = []) (ho : Orderly [] [] system)
    (hu : system.Underway) (hs : system.step event = some after) :
    unit.Progress (past ++ [(system, event)]) after index := by
  by_cases hm : event.mover? = some index
  · cases h with
    | waiting ht hwait hpast => exact step_waiting ht hwait hpast hfree ho hs hm
    | asking ht hask hphase hstands hpub hcommit hone =>
      exact step_asking ht hask hbody hphase hstands hpub hcommit hone ho hu hs hm
    | left ht hl hend hsilent hreply hhonest hpub hno hone =>
      exact step_left ht hl hend hsilent hreply hhonest hpub hno hone ho hu hs hm
    | dismissed ht hf => exact absurd hm (not_mover_of_finished hs ht hf)
    | ended ht hf => exact absurd hm (not_mover_of_finished hs ht hf)
  · exact h.step_other ho hu hs hm

end Progress

/-! ## Runs with a unit of work in them -/

theorem progress_of_spawn {db : Database} {capacity : Nat} {before : System}
    {deadline : Option Deadline} (hrest : db.AtRest) (hrun : Run (.start db capacity) past system)
    (hspawn : (before, .spawn [] deadline unit.work) ∈ past) (hbody : IsBody unit.body.run) :
    unit.Progress past system before.tasks.length := by
  refine hrun.holds_of_spawn (motive := fun past system => unit.Progress past system _) hrest hspawn
    (fun past system task ht hwait hunmoved => ?_) ?_
  · exact .waiting ht hwait hunmoved
  · intro past system after event hrun ho hu hs h
    have hfree := hrun.publicationsOf_of_not_taken (orderly_start hrest capacity) (Nat.le_refl _)
    exact h.step hbody hfree ho hu hs

namespace Progress

/-- Before its caller is told, a unit has published nothing. -/
theorem outcome (h : unit.Progress past system index) :
    (∃ failure, system.reply? index = some (.failed failure) ∧ failure.isOutcomeUnknown = false ∧
        ¬ past.Sent index .commit ∧ ∀ connection, ¬ past.Took index connection) ∨
      (∃ connection reply, system.reply? index = some reply ∧
        unit.Outcome past index connection reply ∧
        ∀ other, past.Took index other ↔ other = connection) ∨
      system.reply? index = none ∧
        ∀ connection, past.Took index connection → past.publicationsOf connection = [] := by
  cases h with
  | waiting ht hwait hpast =>
    exact .inr (.inr ⟨by simp [reply?, ht, hwait.reply],
      fun connection htook => absurd htook (hpast.took connection)⟩)
  | dismissed ht _ hreply hhonest hno hnone =>
    exact .inl ⟨_, by simp [reply?, ht, hreply], hhonest, hno, hnone⟩
  | asking ht hask _ _ hpub _ hone =>
    refine .inr (.inr ⟨by simp [reply?, ht, hask.reply], fun other htook => ?_⟩)
    rw [(hone other).mp htook, hpub]
  | left ht _ _ _ hreply hhonest hpub hno hone =>
    exact .inr (.inl ⟨_, _, by simp [reply?, ht, hreply], .failed hhonest hno hpub, hone⟩)
  | ended ht _ hreply _ houtcome hone =>
    exact .inr (.inl ⟨_, _, by simp [reply?, ht, hreply], houtcome, hone⟩)

theorem free (h : unit.Progress past system index) (ho : Orderly [] [] system)
    (htook : past.Took index connection)
    (hidle : ∀ task ∈ system.tasks, connection ∉ task.claims) :
    connection ∉ system.inUse ∧ ∀ account, (account, connection) ∉ system.db.locks := by
  cases h with
  | waiting _ _ hpast => exact absurd htook (hpast.took connection)
  | dismissed _ _ _ _ _ hnone => exact absurd htook (hnone connection)
  | asking ht hask _ _ _ _ hone =>
    obtain rfl := (hone connection).mp htook
    exact absurd hask.mem_claims (hidle _ (List.mem_of_getElem? ht))
  | left ht hl _ _ _ _ _ _ hone =>
    obtain rfl := (hone connection).mp htook
    exact absurd hl.mem_claims (hidle _ (List.mem_of_getElem? ht))
  | ended _ _ _ hbehind _ hone =>
    obtain rfl := (hone connection).mp htook
    exact hbehind.free ho hidle

end Progress

/-- What is true of a unit at every moment of a run, `index` being the number of its task. The books
are made of what was published (`books`). What the unit has written was published at once or not at
all (`atomic`), and when nobody works on its connection any more, the connection is free and holds no
locks (`free`). A failure that is not about a commit means that nothing was published and nothing ever
will be (`failed`). The outcome is unknown only after a commit was sent (`unknown`), and after that
the caller is told of success or of an unknown outcome and of nothing else (`sent`). -/
structure AllOrNothing (unit : UnitOfWork) (db : Database) (past : Past) (system : System)
    (index : Nat) : Prop where
  books : system.db.books = (past.publications.map (·.2)).foldl Books.overlay db.books
  atomic : ∀ connection, past.Took index connection →
    past.publicationsOf connection = [] ∨
      past.publicationsOf connection = [past.writes index]
  free : ∀ connection, past.Took index connection →
    (∀ task ∈ system.tasks, connection ∉ task.claims) →
    connection ∉ system.inUse ∧ ∀ account, (account, connection) ∉ system.db.locks
  failed : ∀ failure, system.reply? index = some (.failed failure) →
    failure.isOutcomeUnknown = false → ∀ later last, Run system later last →
    ∀ connection, Past.Took (past ++ later) index connection →
      Past.publicationsOf (past ++ later) connection = []
  unknown : ∀ name error, system.reply? index = some (.failed (.commitOutcomeUnknown name error)) →
    past.Sent index .commit
  sent : past.Sent index .commit → ∀ reply, system.reply? index = some reply →
    (∀ failure, reply ≠ .failed failure) ∨
      ∃ error, reply = .failed (.commitOutcomeUnknown unit.name error)

/-- A unit of work is all or nothing, and its caller is told what is true. This holds for every
runner and every body made of store calls, in every run from a database at rest: among any other
tasks, with any faults, stalls and expired deadlines, and at every moment. -/
theorem unit_allOrNothing {db : Database} {capacity : Nat} {before : System}
    {deadline : Option Deadline} (hrest : db.AtRest) (hbody : IsBody unit.body.run)
    (hrun : Run (.start db capacity) past system)
    (hspawn : (before, .spawn [] deadline unit.work) ∈ past) :
    unit.AllOrNothing db past system before.tasks.length where
  books := hrun.books_eq
  atomic connection htook := by
    rcases (progress_of_spawn hrest hrun hspawn hbody).outcome with
      ⟨_, -, -, -, hnone⟩ | ⟨own, reply, -, houtcome, hone⟩ | ⟨-, hpub⟩
    · exact absurd htook (hnone connection)
    · obtain rfl := (hone connection).mp htook
      cases houtcome with
      | committed _ _ hpub => rw [hpub]; split <;> simp
      | unknown _ _ hpub => exact hpub
      | failed _ _ hpub => exact .inl hpub
    · exact .inl (hpub connection htook)
  free connection htook hidle :=
    (progress_of_spawn hrest hrun hspawn hbody).free (hrun.orderly (orderly_start hrest capacity))
      htook hidle
  failed failure hreply hhonest later last hlater connection htook := by
    have hreply' := hlater.reply?_eq hreply
    have hspawn' := List.mem_append_left later hspawn
    rcases (progress_of_spawn hrest (hrun.append hlater) hspawn' hbody).outcome with
      ⟨_, -, -, -, hnone⟩ | ⟨own, reply, hown, houtcome, hone⟩ | ⟨hnone, -⟩
    · exact absurd htook (hnone connection)
    · obtain rfl := (hone connection).mp htook
      obtain rfl := Option.some.inj (hown.symm.trans hreply')
      cases houtcome with
      | committed hok => exact absurd rfl (hok failure)
      | unknown => cases hhonest
      | failed _ _ hpub => exact hpub
    · cases hnone.symm.trans hreply'
  unknown name error hreply := by
    rcases (progress_of_spawn hrest hrun hspawn hbody).outcome with
      ⟨_, hown, hhonest, -⟩ | ⟨own, reply, hown, houtcome, -⟩ | ⟨hnone, -⟩
    · cases hown.symm.trans hreply
      cases hhonest
    · obtain rfl := Option.some.inj (hown.symm.trans hreply)
      cases houtcome with
      | committed _ hsent => exact hsent
      | unknown _ hsent => exact hsent
      | failed hhonest => cases hhonest
    · cases hnone.symm.trans hreply
  sent hsent reply hreply := by
    rcases (progress_of_spawn hrest hrun hspawn hbody).outcome with
      ⟨_, -, -, hno, -⟩ | ⟨own, reply, hown, houtcome, -⟩ | ⟨hnone, -⟩
    · exact absurd hsent hno
    · obtain rfl := Option.some.inj (hown.symm.trans hreply)
      cases houtcome with
      | committed hok => exact .inl hok
      | unknown error => exact .inr ⟨error, rfl⟩
      | failed _ hno => exact absurd hsent hno
    · cases hnone.symm.trans hreply

/-- A ledger of one account, and nobody connected to it. -/
def smallLedger : Database where
  books := ⟨[⟨1000000001, .nil, 50, .current, ⟨0, 0⟩, ⟨0, 0⟩⟩], []⟩
  users := [.nil]
  tables := []
  clock := ⟨0, 0⟩
  serial := 0
  locks := []
  sessions := []

/-- A unit that sets the balance of the account. -/
def deposit : UnitOfWork :=
  Plan.toUnit .default [] {
    name := "deposit"
    operations := [.setBalance (.number 1000000001) 70]
    ignoring := false
    failure := none }

/-- The unit alone, up to its commit. -/
def depositEvents : List Event :=
  [.spawn [] none deposit.work, .move (.connect 0), .move (.send 0), .move (.send 0),
    .move (.send 0)]

/-- The unit commits what it has written and its caller is told so. -/
theorem unit_allOrNothing_deposit : ∃ past system,
    Run (.start smallLedger 1) past system ∧ deposit.AllOrNothing smallLedger past system 0 ∧
      past.Sent 0 .commit ∧ system.reply? 0 = some .done ∧
      (system.db.books.account? 1000000001).map (·.balance) = some 70 := by
  have htrace : (System.start smallLedger 1).traces depositEvents (fun past system =>
      past.Sent 0 .commit ∧ system.reply? 0 = some .done ∧
        (system.db.books.account? 1000000001).map (·.balance) = some 70) = true := rfl
  obtain ⟨past, system, htrace, hend⟩ := exists_of_traces htrace
  have hrun := run_of_trace? htrace
  exact ⟨past, system, hrun,
    unit_allOrNothing ⟨rfl, rfl⟩ (Plan.isBody ..) hrun (mem_of_trace? htrace),
    of_decide_eq_true hend⟩

end UnitOfWork

end Passbook
