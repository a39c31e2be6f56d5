import Passbook.Proofs.Race.Answered
import Passbook.Proofs.Transfer.LostUpdate

/-! # Transfers that race

In a smooth run nothing happens but that work comes, that tasks go on and that time passes
(`Event.IsSmooth`). `Racer` says where a transfer stands in such a run, and `Racer.heat` what its move
comes to: in the end it has been committed, or it has found that the sender had less than was to be
sent. -/

namespace Passbook

/-- Nothing happens but that work comes, that tasks go on and that time passes: no fault strikes, and
nothing takes too long. -/
def Event.IsSmooth : Event → Prop
  | .spawn connections _ _ => connections = []
  | .move made => made.isOnward = true
  | .elapse _ | .tick _ => True
  | .release _ | .arm _ | .unstall | .closePool => False

/-- The work with which somebody comes. -/
def Event.work? : Event → Option (Work Reply)
  | .spawn _ _ work => some work
  | _ => none

namespace Past

/-- All work that has come, in order. -/
def works (past : Past) : List (Work Reply) := past.filterMap fun (_, event) => event.work?

theorem works_eq (past : Past) : past.works = (past.map (·.2)).filterMap Event.work? := by
  rw [List.filterMap_map]
  rfl

theorem works_concat (past : Past) (system : System) (event : Event) :
    Past.works (past ++ [(system, event)]) = past.works ++ event.work?.toList := by
  unfold works
  rw [List.filterMap_append]
  cases h : event.work? <;> simp [h]

theorem length_works (past : Past) : past.works.length = past.calls := by
  rw [works, List.length_filterMap_eq_countP, calls]
  congr 1
  funext ⟨_, event⟩
  cases event <;> rfl

end Past

namespace Transfer

/-- The work of clients that have transfers done, each with a runner of its own. -/
def orderAll (orders : List (Runner × Command)) : List (Work Reply) :=
  orders.map fun (runner, command) => order runner command

/-- What a transfer comes to, as its caller is told. -/
def Decides (command : Command) (books : Books) : Except Failure Reply → Prop
  | .ok reply => ∃ debit, reply = .entry debit
  | .error failure => books.balance command.source < command.amount ∧
      failure = .ledger (.insufficientBalance command.amount (books.balance command.source))

theorem fares_transfer {command : Command} {books : Books} (h : Ready command books)
    (runner : Runner) : (UnitOfWork.transfer runner command).body.run.Fares (Decides command books)
      books .empty := by
  show (Reply.entry <$> perform command).run.Fares _ _ _
  rw [Call.run_map]
  refine Work.Fares.bind (fares_perform h) ?_
  rintro (failure | debit) changes hresult
  · obtain ⟨row, hrow, hshort, rfl⟩ := hresult
    rw [← Books.balance_of_account? hrow] at hshort ⊢
    exact .done ⟨hshort, rfl⟩
  · exact .done ⟨debit, rfl⟩

end Transfer

namespace System

open UnitOfWork Transfer

/-- Where a transfer stands. If it has ended then it has been committed, or it has found at one of the
moments so far that the sender had less than was to be sent. -/
inductive Racer (start : Books) (commands : List Command) (past : Past) (system : System)
    (runner : Runner) (command : Command) (index : Nat) (task : Task) : Prop
  | waiting : index ∉ past.commits → Waiting (.transfer runner command) task →
      Racer start commands past system runner command index task
  | asking {connection : Nat} {phase : Phase} : index ∉ past.commits →
      Asking (.transfer runner command) task connection phase →
      Fits (.transfer runner command) system.db connection phase → ¬ phase.Errs →
      (system.db.session connection).alive = true →
      Racer start commands past system runner command index task
  | won {debit : Entry} : task.stage.isFinished = true → index ∈ past.commits →
      task.reply = some (.entry debit) →
      Racer start commands past system runner command index task
  | lost {earlier : List Nat} {books : Books} : task.stage.isFinished = true →
      index ∉ past.commits → earlier <+: past.commits →
      Executes start (chosen commands earlier) books →
      books.balance command.source < command.amount →
      task.reply = some (.failed (.ledger
        (.insufficientBalance command.amount (books.balance command.source)))) →
      Racer start commands past system runner command index task

theorem mover_of_committed? {system : System} {event : Event} {index : Nat}
    (h : system.committed? event = some index) : event.mover? = some index := by
  obtain ⟨told, htold, h⟩ := Option.bind_eq_some_iff.mp h
  split at h
  · rw [← Option.some.inj h]
    exact (touched_of_told htold).1
  · cases h

/-- How far a transfer comes by its own move. Either nothing becomes public, or it is committed and
its caller is told of the debit. -/
inductive Heat (start : Books) (commands : List Command) (past : Past) (system : System)
    (event : Event) (after : System) (runner : Runner) (command : Command) (index : Nat)
    (task : Task) : Prop
  | quiet {task' : Task} : after.tasks[index]? = some task' → system.publication? event = none →
      Racer start commands (past ++ [(system, event)]) after runner command index task' →
      Heat start commands past system event after runner command index task
  | wins {task' : Task} {debit : Entry} {connection : Nat} {changes : Books} :
      after.tasks[index]? = some task' → index ∉ past.commits → connection ∈ task.claims →
      system.publication? event = some (connection, changes) →
      system.committed? event = some index →
      system.db.books.Covers (system.db.Holds connection) changes →
      task'.stage.isFinished = true → task'.reply = some (.entry debit) →
      Heat start commands past system event after runner command index task

variable {start : Books} {commands : List Command} {past : Past} {system after : System}
  {event : Event} {move : Move} {runner : Runner} {command : Command} {index connection limit
  capacity : Nat} {task : Task}

theorem commits_of_quiet (h : system.publication? event = none) :
    Past.commits (past ++ [(system, event)]) = past.commits := by
  rw [Past.commits_concat, committed?_of_silent h]
  simp

theorem ne_of_isOnward {other : Move} (honward : move.isOnward = true)
    (hother : other.isOnward = false) : move ≠ other := by
  rintro rfl
  cases honward.symm.trans hother

theorem heat_waiting (ho : Orderly [] [] system) (ht : system.tasks[move.index]? = some task)
    (hs : system.step (.move move) = some after) (honward : move.isOnward = true)
    (hnot : move.index ∉ past.commits) (hwait : Waiting (.transfer runner command) task) :
    Heat start commands past system (.move move) after runner command move.index task := by
  have hlt := (List.getElem?_eq_some_iff.mp ht).1
  cases hwait.goes ht hs with
  | connected hmove _ hasks =>
    have hsilent : system.publication? (.move move) = none :=
      publication?_of_told_none (by rw [hmove]; rfl)
    have hfresh := ho.fresh _ fun hin => Nat.lt_irrefl _ (ho.lt_next _ hin)
    refine .quiet (getElem?_setTask_self hlt _) hsilent (.asking ?_
      ⟨rfl, hwait.reply, _, _, rfl, hasks⟩ (.beginning ?_) nofun ?_)
    · rwa [commits_of_quiet hsilent]
    · show Database.transaction? system.db system.nextConnection = none
      rw [Database.transaction?, hfresh]
      rfl
    · show (Database.session system.db system.nextConnection).alive = true
      rw [hfresh]
      rfl
  | dismissed _ _ _ _ hmove =>
    rcases hmove with ⟨_, hmove, -⟩ | hmove
    · exact absurd (Event.move.inj hmove) (ne_of_isOnward honward rfl)
    · exact absurd (Event.move.inj hmove) (ne_of_isOnward honward rfl)

/-- The statement of a transfer that goes on has been run when it is answered, and what the database
grants is not refused. -/
theorem ran_of_told {phase : Phase} {statement : Statement} {next : statement.Answer → Work Reply}
    {ran : Bool} {answer : statement.Answer} (hflow : Flowing False limit capacity past system)
    (ht : system.tasks[move.index]? = some task) (hs : system.step (.move move) = some after)
    (honward : move.isOnward = true)
    (hask : Asking (.transfer runner command) task connection phase)
    (hfits : Fits (.transfer runner command) system.db connection phase)
    (halive : (system.db.session connection).alive = true)
    (hw : task.stage.work = .exec statement next)
    (hasks : (UnitOfWork.transfer runner command).Asks phase statement next)
    (htold : system.told? (.move move) = some ⟨move.index, connection, statement, ran, answer⟩) :
    ran = true ∧ (statement.isGranted = true → answer.toBool = true) := by
  obtain ⟨_, _, _, _, hl, -⟩ :=
    (hflow.climber move.index task ht).asking_of_claims hask.mem_claims
  have hc : task.connections.head? = some connection := by rw [hask.connections]; rfl
  rcases waits_or_told hflow.faults ht hc (fun hmove => absurd hmove (ne_of_isOnward honward rfl))
      hw hl hs with ⟨-, -, hnone, -⟩ | ⟨_, _, htold', hok⟩
  · cases hnone.symm.trans htold
  · cases htold.symm.trans htold'
    obtain ⟨hgranted, hran⟩ := hok halive (hfits.not_refused hasks)
    exact ⟨hran (ne_of_isOnward honward rfl), hgranted⟩

theorem heat_asking {phase : Phase} (hflow : Flowing False limit capacity past system)
    (hsound : system.Sound) (hsound' : after.Sound)
    (hT : system.Twists fun twist => twist = .none)
    (ht : system.tasks[move.index]? = some task) (hs : system.step (.move move) = some after)
    (honward : move.isOnward = true) (hnot : move.index ∉ past.commits)
    (hdone : Executes start (chosen commands past.commits) system.db.books)
    (hready : Ready command system.db.books)
    (hadmits : (UnitOfWork.transfer runner command).Admits)
    (hask : Asking (.transfer runner command) task connection phase)
    (hfits : Fits (.transfer runner command) system.db connection phase) (herr : ¬ phase.Errs)
    (halive : (system.db.session connection).alive = true) :
    Heat start commands past system (.move move) after runner command move.index task := by
  have hlt := (List.getElem?_eq_some_iff.mp ht).1
  have hstrict := (IsTransfer.single runner command).strict
  have hfares := fares_transfer hready runner
  obtain ⟨statement, next, hw, hasks⟩ := hask.asks
  cases hask.goes hstrict.body (hfits.obeys hstrict.body) hT hsound.underway ht hs with
  | held twist hold hw' hasks' htold _ _ _ hdb =>
    have hsilent := publication?_of_told_none htold
    refine .quiet (getElem?_setTask_self hlt _) hsilent (.asking ?_
      ⟨hask.connections, hask.reply, _, _, rfl, hasks'⟩ ?_ herr ?_)
    · rwa [commits_of_quiet hsilent]
    · exact hfits.waits hdb
    · exact (hdb.alive connection).trans halive
  | @turned _ _ _ _ phase' db _ serial _ ran answer hw' _ htold _ htells hturn hasks' =>
    cases hw.symm.trans hw'
    obtain ⟨rfl, hgranted⟩ := ran_of_told hflow ht hs honward hask hfits halive hw hasks htold
    have hok := hfits.answered herr hadmits hfares hasks htells hgranted
    have hhonest : system.db.Tells (fun twist => twist.isHonest = true) connection statement db true
        answer := htells.mono fun _ hnone => by rw [hnone]; rfl
    have hphase := hfits.obeys hstrict.body
    have hsilent := publication?_of_quiet htold
      ((hfits.silent hasks (hturn.ne_commit hphase)).not_published htells)
    have hfits' : Fits (.transfer runner command) { db with serial } connection phase' :=
      (hfits.turned hstrict.guarded hhonest hturn).of_untouched (.of_eq rfl rfl rfl) (.refl _ _)
    have herr' := hfits.not_errs herr hfares nofun hhonest hok hturn
    refine .quiet (getElem?_setTask_self hlt _) hsilent (.asking ?_
      ⟨hask.connections, hask.reply, _, _, rfl, hasks'⟩ hfits' herr' ?_)
    · rwa [commits_of_quiet hsilent]
    · refine hfits'.alive herr' hsound'.custody ?_
      rintro rfl
      cases hturn
  | @ended _ _ reply db faults ran answer hw' _ htold _ htells hends =>
    cases hw.symm.trans hw'
    obtain ⟨rfl, hgranted⟩ := ran_of_told hflow ht hs honward hask hfits halive hw hasks htold
    have hplace := @getElem?_setTask_giveBack { system with db, faults } _ hlt connection
    cases hends with
    | notBegun | unknown => cases hgranted rfl
    | notBounded millis error =>
      cases hfits with
      | limiting hbound => cases hgranted (decide_eq_true (hadmits _ hbound))
    | committed reply rows =>
      obtain ⟨changes, hpublished, hcovers⟩ := hfits.published
      obtain ⟨debit, rfl⟩ := hfits.ends herr hfares
      refine .wins (hplace _) hnot hask.mem_claims ?_ ?_ hcovers rfl rfl
      · rw [publication?_of_told htold, if_pos rfl, hpublished]
        rfl
      · exact committed?_of_told htold rfl rfl (by rw [hpublished]; rfl)
    | rolledBack failure =>
      obtain ⟨hshort, rfl⟩ := hfits.ends herr hfares
      have hsilent := publication?_of_quiet htold
        ((Database.silent_rollback _ _).not_published htells)
      have hcommits := @commits_of_quiet past _ _ hsilent
      refine .quiet (hplace _) hsilent (.lost rfl ?_ ?_ hdone hshort rfl)
      · rwa [hcommits]
      · rw [hcommits]
  | quit _ _ _ _ hmove => exact absurd (Event.move.inj hmove) (ne_of_isOnward honward rfl)
  | left _ _ _ _ _ _ hmove => exact absurd (Event.move.inj hmove) (ne_of_isOnward honward rfl)

namespace Racer

/-- Others do not change anything about it, if the books go on to agree on the rows that it has
locked. -/
theorem of_step {task : Task} (h : Racer start commands past system runner command index task)
    (ho : Orderly [] [] system) (hs : system.step event = some after)
    (ht : system.tasks[index]? = some task) (hm : event.mover? ≠ some index)
    (ha : ∀ connection ∈ task.claims,
      system.db.books.Agree (system.db.Holds connection) after.db.books) :
    Racer start commands (past ++ [(system, event)]) after runner command index task := by
  have hother : system.committed? event ≠ some index := fun hc => hm (mover_of_committed? hc)
  have hcommits : index ∈ Past.commits (past ++ [(system, event)]) ↔ index ∈ past.commits := by
    rw [Past.commits_concat, List.mem_append, Option.mem_toList]
    exact or_iff_left fun hc => hother (Option.mem_def.mp hc)
  cases h with
  | waiting hnot hwait => exact .waiting (mt hcommits.mp hnot) hwait
  | asking hnot hask hfits herr halive =>
    have hspares := spares_of_claims ho hs ht hask.mem_claims hm
    refine .asking (mt hcommits.mp hnot) hask
      (hfits.of_untouched hspares.untouched (ha _ hask.mem_claims)) herr ?_
    rw [hspares.untouched.session]
    exact halive
  | won hf hmem hreply => exact .won hf (hcommits.mpr hmem) hreply
  | lost hf hnot hearlier hdone hshort hreply =>
    refine .lost hf (mt hcommits.mp hnot) (hearlier.trans ?_) hdone hshort hreply
    rw [Past.commits_concat]
    exact List.prefix_append ..

/-- The statement that it is told about adds no account. -/
theorem not_adds {task : Task} {statement : Statement} {next : statement.Answer → Work Reply}
    (h : Racer start commands past system runner command index task)
    (hw : task.stage.work = .exec statement next) (db : Database) (connection : Nat) :
    db.KeysFree connection statement := by
  cases h with
  | waiting _ hwait =>
    have hwork := hwait.work
    rw [UnitOfWork.work_eq, hw] at hwork
    cases hwork
  | won hf | lost hf => cases (Stage.isFinished_of_work hw).symm.trans hf
  | asking _ hask hfits =>
    obtain ⟨_, _, hw', hasks⟩ := hask.asks
    cases hw.symm.trans hw'
    cases hasks with
    | begin | limit | commit | rollback => trivial
    | query =>
      cases hfits with
      | working _ _ _ hreplays =>
        cases hreplays.guarded (IsTransfer.single runner command).guarded with
        | exec hg => cases statement <;> trivial

/-- What its own move comes to. -/
theorem heat {task : Task} (h : Racer start commands past system runner command move.index task)
    (hflow : Flowing False limit capacity past system) (hsound : system.Sound)
    (hsound' : after.Sound) (hT : system.Twists fun twist => twist = .none)
    (ht : system.tasks[move.index]? = some task) (hs : system.step (.move move) = some after)
    (honward : move.isOnward = true)
    (hdone : Executes start (chosen commands past.commits) system.db.books)
    (hready : move.index ∉ past.commits → Ready command system.db.books)
    (hadmits : (UnitOfWork.transfer runner command).Admits) :
    Heat start commands past system (.move move) after runner command move.index task := by
  cases h with
  | waiting hnot hwait => exact heat_waiting hsound.orderly ht hs honward hnot hwait
  | asking hnot hask hfits herr halive =>
    exact heat_asking hflow hsound hsound' hT ht hs honward hnot hdone (hready hnot) hadmits hask
      hfits herr halive
  | won hf | lost hf => exact absurd rfl (not_mover_of_finished hs ht hf)

end Racer

end System

end Passbook
