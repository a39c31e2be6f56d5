import Passbook.Proofs.Serial.Fits
import Passbook.Proofs.UnitOfWork.Leftovers

/-! # Where tasks stand

In a run in which all work consists of strict units of work, every task is one of these units, or it
is the rollback that one has left behind (`Standing`). Events that move other tasks leave it where it
is (`Standing.of_step`). Its own moves take it further, and only one of them can publish anything: the
commit of what the unit would have written alone (`Advance`). -/

namespace Passbook

namespace System

variable {system : System} {event : Event} {told : Told}

/-- The task whose commit takes effect by an event. -/
def committed? (system : System) (event : Event) : Option Nat :=
  (system.told? event).bind fun told =>
    if told.ran ∧ told.statement = .commit ∧
        (system.db.published? told.connection told.statement).isSome then some told.index
    else none

theorem publication?_of_quiet (h : system.told? event = some told)
    (hq : (if told.ran then system.db.published? told.connection told.statement else none) = none) :
    system.publication? event = none := by
  rw [publication?_of_told h]
  cases hran : told.ran with
  | false => rfl
  | true =>
    rw [hran, if_pos rfl] at hq
    rw [if_pos rfl, hq]
    rfl

theorem committed?_of_silent (h : system.publication? event = none) :
    system.committed? event = none := by
  unfold committed?
  cases htold : system.told? event with
  | none => rfl
  | some told =>
    rw [publication?_of_told htold] at h
    rw [Option.bind_some, if_neg]
    rintro ⟨hran, -, hsome⟩
    rw [if_pos hran, Option.map_eq_none_iff] at h
    rw [h] at hsome
    cases hsome

theorem committed?_of_told (h : system.told? event = some told) (hran : told.ran = true)
    (hc : told.statement = .commit)
    (hp : (system.db.published? told.connection told.statement).isSome = true) :
    system.committed? event = some told.index := by
  rw [committed?, h, Option.bind_some, if_pos ⟨hran, hc, hp⟩]

end System

namespace Past

variable {past : Past} {system : System} {event : Event} {index : Nat} {work : Work Reply}

/-- The tasks whose commits have taken effect, in order. -/
def commits (past : Past) : List Nat :=
  past.filterMap fun (system, event) => system.committed? event

/-- The task was spawned to do the work. -/
def Spawned (past : Past) (index : Nat) (work : Work Reply) : Prop :=
  ∃ before connections deadline, (before, .spawn connections deadline work) ∈ past ∧
    before.tasks.length = index

theorem commits_concat (past : Past) (system : System) (event : Event) :
    Past.commits (past ++ [(system, event)]) =
      past.commits ++ (system.committed? event).toList := by
  unfold commits
  rw [List.filterMap_append]
  cases h : system.committed? event <;> simp [h]

theorem Spawned.concat (h : past.Spawned index work) (system : System) (event : Event) :
    Past.Spawned (past ++ [(system, event)]) index work := by
  obtain ⟨before, connections, deadline, hmem, hlen⟩ := h
  exact ⟨before, connections, deadline, List.mem_append_left _ hmem, hlen⟩

theorem Spawned.of_concat (h : Past.Spawned (past ++ [(system, event)]) index work) :
    past.Spawned index work ∨ index = system.tasks.length ∧
      ∃ connections deadline, event = .spawn connections deadline work := by
  obtain ⟨before, connections, deadline, hmem, hlen⟩ := h
  rcases List.mem_append.mp hmem with hmem | hmem
  · exact .inl ⟨before, connections, deadline, hmem, hlen⟩
  · obtain ⟨rfl, rfl⟩ := Prod.mk.inj (List.mem_singleton.mp hmem)
    exact .inr ⟨hlen.symm, connections, deadline, rfl⟩

end Past

/-- What has been spawned is there. -/
theorem Run.lt_of_spawned {start system : System} {past : Past} {index : Nat} {work : Work Reply}
    (h : Run start past system) (hs : past.Spawned index work) : index < system.tasks.length := by
  induction h with
  | refl => obtain ⟨_, _, _, hmem, _⟩ := hs; cases hmem
  | @step past system after event hrun hstep ih =>
    have hle := System.length_le_step hstep
    rcases hs.of_concat with hs | ⟨rfl, connections, deadline, rfl⟩
    · exact Nat.lt_of_lt_of_le (ih hs) hle
    · obtain ⟨-, -, rfl⟩ := System.spawned_of_step hstep
      obtain ⟨left, hl⟩ := System.tasks_proceed system
        { connections, deadline, stage := .finished, progress := [], reply := none } work
      simp only [System.spawn, hl, List.length_append, List.length_singleton]
      omega

/-- A task does the work that it was spawned to do, and no other. -/
theorem Run.spawned_unique {start system : System} {past : Past} {index : Nat}
    {work work' : Work Reply} (h : Run start past system) (hs : past.Spawned index work)
    (hs' : past.Spawned index work') : work = work' := by
  induction h with
  | refl => obtain ⟨_, _, _, hmem, _⟩ := hs; cases hmem
  | step hrun _ ih =>
    rcases hs.of_concat with hs | ⟨rfl, _, _, rfl⟩ <;>
      rcases hs'.of_concat with hs' | ⟨hindex, _, _, hevent⟩
    · exact ih hs hs'
    · exact absurd (hrun.lt_of_spawned hs) (by rw [hindex]; exact Nat.lt_irrefl _)
    · exact absurd (hrun.lt_of_spawned hs') (Nat.lt_irrefl _)
    · cases hevent
      rfl

namespace System

open UnitOfWork

/-- If the task was spawned, its caller has been told of a failure, or of the reply with which it
has committed. -/
def Settled (past : Past) (runs : List (Nat × Reply)) (index : Nat) (task : Task) : Prop :=
  ∀ work, past.Spawned index work → ∃ reply, task.reply = some reply ∧
    ((∃ failure, reply = .failed failure) ∨ (index, reply) ∈ runs)

/-- Where a task stands, given the commits so far with the replies that belong to them. -/
inductive Standing (past : Past) (system : System) (runs : List (Nat × Reply)) (index : Nat)
    (task : Task) : Prop
  | waiting {unit : UnitOfWork} : unit.Strict → past.Spawned index unit.work →
      Waiting unit task → Standing past system runs index task
  | asking {unit : UnitOfWork} {connection : Nat} {phase : Phase} : unit.Strict →
      past.Spawned index unit.work → Asking unit task connection phase →
      unit.Fits system.db connection phase → Standing past system runs index task
  | leaving {connection : Nat} {statement : Statement} : Leaving task connection statement →
      system.db.Silent connection statement → Settled past runs index task →
      Standing past system runs index task
  | finished : task.stage.isFinished = true → Settled past runs index task →
      Standing past system runs index task

/-- How far a task comes by its own move. Either nothing becomes public, and if the caller of a unit
is told of a failure of the ledger then the unit would have failed so alone; or a unit commits what it
would have written alone. -/
inductive Advance (past : Past) (system : System) (event : Event) (after : System)
    (runs : List (Nat × Reply)) (index : Nat) (task : Task) : Prop
  | quiet {task' : Task} : after.tasks[index]? = some task' →
      system.publication? event = none →
      Standing (past ++ [(system, event)]) after runs index task' →
      (∀ error, task.reply = none → task'.reply = some (.failed (.ledger error)) →
        ∃ unit connection began changes, past.Spawned index (UnitOfWork.work unit) ∧
          unit.Admits ∧ unit.body.run.Replays (system.db.Holds connection) system.db.books
            system.db.draws began changes (.done (.error (.ledger error)))) →
      Advance past system event after runs index task
  | commits {task' : Task} {unit : UnitOfWork} {connection : Nat} {began : Instant}
      {changes : Books} {result : Reply} : after.tasks[index]? = some task' →
      system.publication? event = some (connection, changes) →
      system.committed? event = some index → connection ∈ task.claims → unit.Strict →
      past.Spawned index unit.work → unit.Admits →
      unit.body.run.Replays (system.db.Holds connection) system.db.books system.db.draws began
        changes (.done (.ok result)) →
      task'.stage.isFinished = true →
      task'.reply = some result ∨ (∃ failure, task'.reply = some (.failed failure) ∧
        ∀ error, failure ≠ .ledger error) →
      Advance past system event after runs index task

variable {past : Past} {system after : System} {event : Event} {runs runs' : List (Nat × Reply)}
  {index : Nat} {task task' : Task}

theorem Settled.of_step (h : Settled past runs index task) (hlt : index < system.tasks.length)
    (hr : ∀ run ∈ runs, run ∈ runs') (hreply : task'.reply = task.reply) :
    Settled (past ++ [(system, event)]) runs' index task' := by
  intro work hs
  rcases hs.of_concat with hs | ⟨rfl, -⟩
  · obtain ⟨reply, hown, hout⟩ := h work hs
    exact ⟨reply, hreply.trans hown, hout.imp_right (hr _)⟩
  · exact absurd hlt (Nat.lt_irrefl _)

namespace Standing

/-- Others leave a task where it is, if the books go on to agree on the rows that it has locked. -/
theorem of_step (h : Standing past system runs index task) (ho : Orderly [] [] system)
    (hs : system.step event = some after) (ht : system.tasks[index]? = some task)
    (hm : event.mover? ≠ some index)
    (ha : ∀ connection ∈ task.claims,
      system.db.books.Agree (system.db.Holds connection) after.db.books)
    (hr : ∀ run ∈ runs, run ∈ runs') :
    ∃ task', after.tasks[index]? = some task' ∧
      Standing (past ++ [(system, event)]) after runs' index task' := by
  have hlt := (List.getElem?_eq_some_iff.mp ht).1
  cases h with
  | waiting hstrict hspawned hwait =>
    obtain ⟨task', ht', hwait'⟩ := hwait.of_step hs ht hm
    exact ⟨task', ht', .waiting hstrict (hspawned.concat system event) hwait'⟩
  | @asking unit connection phase hstrict hspawned hask hfits =>
    have hspares := spares_of_claims ho hs ht hask.mem_claims hm
    obtain ⟨task', ht', hask', -⟩ := hask.of_step hs ht hm
    exact ⟨task', ht', .asking hstrict (hspawned.concat system event) hask'
      (hfits.of_untouched hspares.untouched (ha connection hask.mem_claims))⟩
  | @leaving connection statement hl hsilent hsettled =>
    have hspares := spares_of_claims ho hs ht hl.mem_claims hm
    obtain ⟨task', ht', hl', hreply⟩ := hl.of_step hs ht hm
    exact ⟨task', ht', .leaving hl' (hsilent.of_untouched hspares.untouched)
      (hsettled.of_step hlt hr hreply)⟩
  | finished hf hsettled =>
    exact ⟨task, finished_of_step hs ht hf, .finished hf (hsettled.of_step hlt hr rfl)⟩

end Standing

/-! ## Moves -/

section

variable {move : Move} {unit : UnitOfWork} {connection : Nat}

theorem advance_waiting (ho : Orderly [] [] system) (ht : system.tasks[move.index]? = some task)
    (hs : system.step (.move move) = some after) (hstrict : unit.Strict)
    (hspawned : past.Spawned move.index unit.work) (hwait : Waiting unit task) :
    Advance past system (.move move) after runs move.index task := by
  have hlen := (List.getElem?_eq_some_iff.mp ht).1
  have hspawned' := hspawned.concat system (.move move)
  cases hwait.goes ht hs with
  | connected hmove _ hasks =>
    have htold : system.told? (.move move) = none := by rw [hmove]; rfl
    have hfits : unit.Fits system.db system.nextConnection .beginning := by
      have hfresh := ho.fresh _ fun hin => Nat.lt_irrefl _ (ho.lt_next _ hin)
      refine .beginning ?_
      unfold Database.transaction?
      rw [hfresh]
      rfl
    refine .quiet (getElem?_setTask_self hlen _) (publication?_of_told_none htold)
      (.asking hstrict hspawned' ⟨rfl, hwait.reply, _, _, rfl, hasks⟩ hfits) ?_
    intro error _ hreply
    cases hwait.reply.symm.trans hreply
  | dismissed deadline failure _ hledger hmove =>
    have htold : system.told? (.move move) = none := by
      rcases hmove with ⟨_, hmove, -⟩ | hmove <;> rw [hmove] <;> rfl
    refine .quiet (getElem?_setTask_self hlen _) (publication?_of_told_none htold)
      (.finished rfl fun _ _ => ⟨_, rfl, .inl ⟨failure, rfl⟩⟩) ?_
    intro error _ hreply
    cases hreply
    exact absurd rfl (hledger error)

theorem advance_asking {phase : Phase}
    (hT : system.Twists fun twist => twist.isHonest = true) (hu : system.Underway)
    (ht : system.tasks[move.index]? = some task) (hs : system.step (.move move) = some after)
    (hstrict : unit.Strict) (hspawned : past.Spawned move.index unit.work)
    (hask : Asking unit task connection phase) (hfits : unit.Fits system.db connection phase) :
    Advance past system (.move move) after runs move.index task := by
  have hlen := (List.getElem?_eq_some_iff.mp ht).1
  have hspawned' := hspawned.concat system (.move move)
  have hphase := hfits.obeys hstrict.body
  cases hask.goes hstrict.body hphase hT hu ht hs with
  | held twist hold _ hasks htold _ _ _ hdb =>
    refine .quiet (getElem?_setTask_self hlen _) (publication?_of_told_none htold)
      (.asking hstrict hspawned' ⟨hask.connections, hask.reply, _, _, rfl, hasks⟩ ?_) ?_
    · exact hfits.waits hdb
    · intro error _ hreply
      cases hask.reply.symm.trans hreply
  | @turned _ _ _ _ _ db _ serial _ ran answer _ hasks htold _ htells hturn hasks' =>
    have hquiet := (hfits.silent hasks (hturn.ne_commit hphase)).not_published htells
    refine .quiet (getElem?_setTask_self hlen _) (publication?_of_quiet htold hquiet)
      (.asking hstrict hspawned' ⟨hask.connections, hask.reply, _, _, rfl, hasks'⟩ ?_) ?_
    · exact (hfits.turned hstrict.guarded htells hturn).of_untouched (.of_eq rfl rfl rfl) (.refl _ _)
    · intro error _ hreply
      cases hask.reply.symm.trans hreply
  | @ended statement _ reply db faults ran answer _ _ htold _ htells hends =>
    have hplace := @getElem?_setTask_giveBack { system with db, faults } _ hlen connection
    cases hfits.ended htells hends with
    | @committed transaction result hc hran hp hadmits hreplays hreply =>
      subst hc hran
      refine .commits (hplace _) ?_ ?_ ?_ hstrict hspawned hadmits hreplays rfl ?_
      · rw [publication?_of_told htold, if_pos rfl, hp]
        rfl
      · exact committed?_of_told htold rfl rfl (by rw [hp]; rfl)
      · exact hask.mem_claims
      · rcases hreply with rfl | ⟨failure, rfl, hledger⟩
        · exact .inl rfl
        · exact .inr ⟨failure, rfl, hledger⟩
    | @failed failure hreply hquiet hledger =>
      subst hreply
      refine .quiet (hplace _) (publication?_of_quiet htold hquiet)
        (.finished rfl fun _ _ => ⟨_, rfl, .inl ⟨failure, rfl⟩⟩) ?_
      intro error _ hown
      cases hown
      obtain ⟨hadmits, began, changes, hreplays⟩ := hledger error rfl
      exact ⟨unit, connection, began, changes, hspawned, hadmits, hreplays⟩
  | quit deadline _ _ _ hmove _ =>
    have htold : system.told? (.move move) = none := by rw [hmove]; rfl
    refine .quiet (getElem?_setTask_giveBack hlen connection _) (publication?_of_told_none htold)
      (.finished rfl fun _ _ => ⟨_, rfl, .inl ⟨_, rfl⟩⟩) ?_
    intro error _ hreply
    cases hreply
  | left deadline twist hold _ hasks hend hmove _ _ =>
    have htold : system.told? (.move move) = none := by rw [hmove]; rfl
    have hsilent := hfits.silent hasks (by rintro rfl; cases hend)
    refine .quiet (getElem?_setTask_self hlen _) (publication?_of_told_none htold)
      (.leaving ⟨hask.connections, rfl, rfl⟩ hsilent fun _ _ => ⟨_, rfl, .inl ⟨_, rfl⟩⟩) ?_
    intro error _ hreply
    cases hreply

theorem advance_leaving {statement : Statement}
    (hT : system.Twists fun twist => twist.isHonest = true) (hu : system.Underway)
    (ht : system.tasks[move.index]? = some task) (hs : system.step (.move move) = some after)
    (hl : Leaving task connection statement) (hsilent : system.db.Silent connection statement)
    (hsettled : Settled past runs move.index task) :
    Advance past system (.move move) after runs move.index task := by
  have hlen := (List.getElem?_eq_some_iff.mp ht).1
  cases hl.goes hT hu ht hs with
  | held twist hold htold _ _ _ hdb =>
    refine .quiet (getElem?_setTask_self hlen _) (publication?_of_told_none htold)
      (.leaving ⟨hl.connections, hl.deadline, rfl⟩ ?_
        (hsettled.of_step hlen (fun _ => id) rfl)) ?_
    · exact hsilent.waits hdb
    · intro error hnone hreply
      cases hnone.symm.trans hreply
  | @told db faults ran answer htold _ htells =>
    have hplace := @getElem?_setTask_giveBack { system with db, faults } _ hlen connection
    refine .quiet (hplace _) (publication?_of_quiet htold (hsilent.not_published htells))
      (.finished rfl fun work hs => ?_) ?_
    · rcases hs.of_concat with hs | ⟨he, -⟩
      · obtain ⟨reply, hreply, hout⟩ := hsettled work hs
        exact ⟨reply, by simp [hreply], hout⟩
      · exact absurd hlen (by rw [he]; exact Nat.lt_irrefl _)
    · intro error hnone hreply
      rw [hnone] at hreply
      cases hreply

/-- The move of a task comes to nothing public, or to the commit of a unit. -/
theorem Standing.advance (h : Standing past system runs move.index task)
    (hT : system.Twists fun twist => twist.isHonest = true) (ho : Orderly [] [] system)
    (hu : system.Underway) (ht : system.tasks[move.index]? = some task)
    (hs : system.step (.move move) = some after) :
    Advance past system (.move move) after runs move.index task := by
  cases h with
  | waiting hstrict hspawned hwait => exact advance_waiting ho ht hs hstrict hspawned hwait
  | asking hstrict hspawned hask hfits =>
    exact advance_asking hT hu ht hs hstrict hspawned hask hfits
  | leaving hl hsilent hsettled => exact advance_leaving hT hu ht hs hl hsilent hsettled
  | finished hf => exact absurd rfl (not_mover_of_finished hs ht hf)

end

end System

end Passbook
