import Passbook.Proofs.Deadlock.Pace

/-! # Runs without faults

A run in which nothing happens but that transfers are executed, that tasks move and that time passes
(`Event.Flows`). Its tasks are those transfers and no others, each keeps to its pace, and every
connection in use is worked on (`System.Flowing`). The run is calm if the transfers have no deadlines
and no bound on their lock waits (`Event.IsCalm`). -/

namespace Passbook

/-- Nothing happens but that transfers are executed, without a deadline and without a bound on lock
waits, that tasks move and that time passes. -/
def Event.IsCalm : Event → Prop
  | .spawn connections deadline work => connections = [] ∧ deadline = none ∧
      ∃ (runner : Runner) (command : Command), runner.lockTimeout = none ∧
        work = Call.replying .entry (Transfer.execute runner command)
  | .move _ | .elapse _ | .tick _ => True
  | .release _ | .arm _ | .unstall | .closePool => False

/-- Nothing happens but that transfers of so many statements at most are executed, that tasks move and
that time passes. Only where the run is hasty are transfers abandoned, and they have no deadlines
then. -/
def Event.Flows (Hasty : Prop) (limit : Nat) : Event → Prop
  | .spawn connections deadline work => connections = [] ∧ (Hasty → deadline = none) ∧
      ∃ (runner : Runner) (command : Command),
        (UnitOfWork.transfer runner command).statements ≤ limit ∧
          (UnitOfWork.transfer runner command).Admits ∧
          work = Call.replying .entry (Transfer.execute runner command)
  | .move made => made = .abandon made.index → Hasty
  | .elapse _ | .tick _ => True
  | .release _ | .arm _ | .unstall | .closePool => False

/-- Without a deadline nobody is abandoned, and without a bound on lock waits a transfer sends eight
statements. -/
theorem Event.IsCalm.flows {event : Event} (h : event.IsCalm) : event.Flows True 8 := by
  cases event with
  | spawn connections deadline work =>
    obtain ⟨hconnections, hdeadline, runner, command, hbound, hwork⟩ := h
    refine ⟨hconnections, fun _ => hdeadline, runner, command, ?_, ?_, hwork⟩
    · simp [UnitOfWork.statements, UnitOfWork.transfer, UnitOfWork.ofCall, hbound]
    · intro millis hmillis
      rw [UnitOfWork.transfer, UnitOfWork.ofCall, hbound] at hmillis
      cases hmillis
  | move | elapse | tick => simp [Event.Flows]
  | release | arm | unstall | closePool => cases h

/-- Whether somebody comes with work to be done. -/
def Event.isSpawn : Event → Bool
  | .spawn .. => true
  | _ => false

namespace Past

/-- How many pieces of work have come. -/
def calls (past : Past) : Nat := past.countP fun (_, event) => event.isSpawn

theorem calls_concat (past : Past) (system : System) (event : Event) :
    Past.calls (past ++ [(system, event)]) = past.calls + event.isSpawn.toNat :=
  countP_concat ..

end Past

namespace System

variable {Hasty : Prop} {limit capacity : Nat} {past : Past} {system after : System} {event : Event}
  {connection index : Nat} {task : Task} {deadline : Option Deadline}

/-- All tasks are ascending units, and all connections in use are theirs. -/
structure Flowing (Hasty : Prop) (limit capacity : Nat) (past : Past) (system : System) : Prop where
  faults : system.faults = []
  closed : system.closed = false
  capacity : system.capacity = capacity
  climber : ∀ (index : Nat) (task : Task), system.tasks[index]? = some task →
    Climber Hasty limit past system index task
  claimed : ∀ connection ∈ system.inUse, ∃ (index : Nat) (task : Task),
    system.tasks[index]? = some task ∧ connection ∈ task.claims
  fresh : ∀ index, system.tasks.length ≤ index → past.Paced limit index (limit + 1) true
  calls : system.tasks.length = past.calls

theorem flowing_start (Hasty : Prop) (limit : Nat) (db : Database) (capacity : Nat) :
    Flowing Hasty limit capacity [] (.start db capacity) where
  faults := rfl
  closed := rfl
  capacity := rfl
  climber _ _ ht := by cases ht
  claimed _ hin := by cases hin
  fresh _ _ := ⟨by simp [Past.statements], Nat.le_refl 1⟩
  calls := rfl

namespace Flowing

theorem move (h : Flowing Hasty limit capacity past system) (ho : Orderly [] [] system)
    (hu : system.Underway) (hT : system.Twists fun twist => twist.isHonest = true) {move : Move}
    (hhasty : move = .abandon move.index → Hasty) (hs : system.step (.move move) = some after) :
    Flowing Hasty limit capacity (past ++ [(system, .move move)]) after := by
  have hlt := lt_length_of_mover hs rfl
  have hmover := List.getElem?_eq_getElem hlt
  obtain ⟨task', hadv⟩ := (h.climber move.index _ hmover).advances h.faults hT hu ho hhasty hmover hs
  have hother : ∀ index, index ≠ move.index → after.tasks[index]? = system.tasks[index]? := by
    intro index hne
    rw [hadv.tasks, List.getElem?_set_ne (Ne.symm hne)]
  have hplace : after.tasks[move.index]? = some task' := by
    rw [hadv.tasks, List.getElem?_set_self hlt]
  have hlength : after.tasks.length = system.tasks.length := by
    rw [hadv.tasks, List.length_set]
  refine ⟨?_, hadv.closed.trans h.closed, hadv.capacity.trans h.capacity, ?_, ?_, ?_, ?_⟩
  · rcases (System.moves hT hs).faults with ⟨name, hsub⟩ | heq
    · rw [h.faults] at hsub
      exact List.sublist_nil.mp hsub
    · rw [heq, h.faults]
  · intro index task ht
    by_cases he : index = move.index
    · subst he
      rw [← Option.some.inj (hplace.symm.trans ht)]
      exact hadv.climber
    · have hold := ht
      rw [hother index he] at hold
      exact (h.climber index task hold).of_step ho hs hold fun hm => he (Option.some.inj hm).symm
  · intro connection hin
    rcases hadv.inUse connection hin with hown | ⟨hin, hnot⟩
    · exact ⟨move.index, task', hplace, hown⟩
    · obtain ⟨index, task, ht, hclaims⟩ := h.claimed connection hin
      have hne : index ≠ move.index := by
        rintro rfl
        rw [Option.some.inj (hmover.symm.trans ht)] at hnot
        exact hnot hclaims
      exact ⟨index, task, (hother index hne).trans ht, hclaims⟩
  · intro index hle
    rw [hlength] at hle
    refine (h.fresh index hle).of_not_moved system ?_
    intro hm
    have hsame := Option.some.inj hm
    omega
  · rw [hlength, h.calls, Past.calls_concat]
    rfl

theorem spawn (h : Flowing Hasty limit capacity past system) (ho : Orderly [] [] system)
    {unit : UnitOfWork} (ha : unit.Ascending) (hle : unit.statements ≤ limit)
    (hd : Hasty → deadline = none)
    (hs : system.step (.spawn [] deadline unit.work) = some after) :
    Flowing Hasty limit capacity (past ++ [(system, .spawn [] deadline unit.work)]) after := by
  obtain ⟨own, rfl, hwait, hown⟩ := Waiting.of_spawn hs
  have hold : ∀ {index : Nat} {task : Task}, system.tasks[index]? = some task →
      (system.tasks ++ [own])[index]? = some task := by
    intro index task ht
    rw [List.getElem?_append_left (List.getElem?_eq_some_iff.mp ht).1, ht]
  refine ⟨h.faults, h.closed, h.capacity, ?_, ?_, ?_, ?_⟩
  · intro index task ht
    cases hnew : system.tasks[index]? with
    | some old =>
      obtain rfl := Option.some.inj ((hold hnew).symm.trans ht)
      exact (h.climber index old hnew).of_step ho hs hnew nofun
    | none =>
      have hnone := List.getElem?_eq_none_iff.mp hnew
      have hmem : task ∈ [own] := by
        rw [List.getElem?_append_right hnone] at ht
        exact List.mem_of_getElem? ht
      obtain rfl := List.mem_singleton.mp hmem
      exact .waiting ha hle hwait (fun hhasty => hown.trans (hd hhasty))
        ((h.fresh index hnone).of_not_moved system nofun)
  · intro connection hin
    obtain ⟨index, task, ht, hclaims⟩ := h.claimed connection hin
    exact ⟨index, task, hold ht, hclaims⟩
  · intro index hle
    simp only [List.length_append, List.length_singleton] at hle
    exact (h.fresh index (by omega)).of_not_moved system nofun
  · rw [List.length_append, h.calls, Past.calls_concat]
    rfl

/-- An event by which nobody comes and nobody moves. -/
theorem idle (h : Flowing Hasty limit capacity past system) (ho : Orderly [] [] system)
    (hs : system.step event = some after) (hm : event.mover? = none)
    (hc : event.isSpawn = false) {db : Database} {now : Nat}
    (hafter : after = { system with db, now }) :
    Flowing Hasty limit capacity (past ++ [(system, event)]) after := by
  have hnot : ∀ index, event.mover? ≠ some index := fun index he => by cases hm.symm.trans he
  subst hafter
  refine ⟨h.faults, h.closed, h.capacity, ?_, h.claimed, ?_, ?_⟩
  · intro index task ht
    exact (h.climber index task ht).of_step ho hs ht (hnot index)
  · intro index hle
    exact (h.fresh index hle).of_not_moved system (hnot index)
  · rw [Past.calls_concat, hc]
    exact h.calls

theorem step (h : Flowing Hasty limit capacity past system) (ho : Orderly [] [] system)
    (hu : system.Underway) (hT : system.Twists fun twist => twist.isHonest = true)
    (hs : system.step event = some after) (hflows : event.Flows Hasty limit) :
    Flowing Hasty limit capacity (past ++ [(system, event)]) after := by
  cases event with
  | move move => exact h.move ho hu hT hflows hs
  | spawn connections deadline work =>
    obtain ⟨rfl, hd, runner, command, hle, hadmits, rfl⟩ := hflows
    rw [← UnitOfWork.work_execute] at hs ⊢
    exact h.spawn ho (UnitOfWork.ascending_transfer hadmits) hle hd hs
  | elapse till => exact h.idle ho hs rfl rfl (Option.some.inj hs).symm
  | tick clock => exact h.idle ho hs rfl rfl (Option.some.inj hs).symm
  | release | arm | unstall | closePool => cases hflows

end Flowing

end System

theorem Run.flowing {Hasty : Prop} {limit : Nat} {db : Database} {capacity : Nat} {past : Past}
    {system : System} (h : Run (.start db capacity) past system) (hrest : db.AtRest)
    (hflows : ∀ before event, (before, event) ∈ past → event.Flows Hasty limit) :
    System.Flowing Hasty limit capacity past system := by
  have ho := System.orderly_start hrest capacity
  have hu := System.underway_start db capacity
  have hT := System.twists_start (·.isHonest = true) rfl db capacity
  induction h with
  | refl => exact System.flowing_start Hasty limit db capacity
  | @step past system after event hrun hs ih =>
    have hbefore : ∀ before event, (before, event) ∈ past → event.Flows Hasty limit :=
      fun before event hmem => hflows before event (List.mem_append_left _ hmem)
    have hlast := hflows system event (List.mem_append_right _ List.mem_cons_self)
    refine (ih hbefore).step (hrun.orderly ho) (hrun.underway ho hu) ?_ hs hlast
    exact hrun.twists hT fun before armed hmem => by cases hbefore before _ hmem

end Passbook
