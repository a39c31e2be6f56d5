import Passbook.Proofs.UnitOfWork.Course

/-! # What is left of a unit

A connection that a unit of work has done with is given back, or somebody is still about to end the
transaction on it (`Behind`). Nothing becomes public from it any more, and in the end it is free and
holds no locks. -/

namespace Passbook.System

variable {Allowed : Twist → Prop} {system after : System} {event : Event} {index connection : Nat}
  {task : Task}

theorem length_giveBack (system : System) (connection : Nat) :
    system.tasks.length ≤ (system.giveBack connection).tasks.length := by
  unfold giveBack
  dsimp only
  split
  · simp
  · exact Nat.le_refl _

theorem getElem?_setTask_self (h : index < system.tasks.length) (task : Task) :
    (system.setTask index task).tasks[index]? = some task :=
  List.getElem?_set_self h

theorem getElem?_setTask_giveBack (h : index < system.tasks.length) (connection : Nat)
    (task : Task) :
    ((system.giveBack connection).setTask index task).tasks[index]? = some task :=
  getElem?_setTask_self (Nat.lt_of_lt_of_le h (length_giveBack system connection)) task

/-- A connection that nothing becomes public from any more. -/
inductive Behind (system : System) (connection : Nat) : Prop
  | leaving {index : Nat} {task : Task} {statement : Statement} :
      system.tasks[index]? = some task → Leaving task connection statement →
      system.db.Silent connection statement → Behind system connection
  | gone : connection ∉ system.inUse → connection < system.nextConnection →
      Behind system connection

/-- A connection that is given back is rolled back first, or gone at once. -/
theorem behind_giveBack (hn : system.inUse.Nodup) (hlt : connection < system.nextConnection)
    (hi : index < system.tasks.length) (task : Task) :
    Behind ((system.giveBack connection).setTask index task) connection := by
  unfold giveBack
  dsimp only
  split
  · have hlast : ((system.tasks ++ [Task.cleanup connection]).set index task)[system.tasks.length]? =
        some (.cleanup connection) := by
      rw [List.getElem?_set_ne (Nat.ne_of_lt hi)]
      simp
    exact .leaving hlast (.cleanup connection) (Database.silent_rollback _ _)
  · exact .gone (fun hm => (List.Nodup.not_mem_erase hn) hm) hlt

namespace Behind

theorem step (h : Behind system connection) (ho : Orderly [] [] system) (hu : system.Underway)
    (hs : system.step event = some after) :
    Behind after connection ∧
      ∀ publication, system.publication? event = some publication → publication.1 ≠ connection := by
  cases h with
  | gone hfree hlt =>
    have htouched := not_touched_of_free ho hs hfree
    have hspares := spares_step hs htouched hlt
    have hlt' := Nat.lt_of_lt_of_le hlt (nextConnection_le hs)
    exact ⟨.gone (fun hm => hfree (hspares.inUse.mp hm)) hlt',
      fun _ => publication?_of_not_touched htouched⟩
  | @leaving index task statement ht hl hsilent =>
    have hin := ho.inUse_of_claims ht hl.mem_claims
    by_cases hm : event.mover? = some index
    · obtain ⟨move, rfl, rfl⟩ := mover?_eq_some hm
      have hlen := (List.getElem?_eq_some_iff.mp ht).1
      cases hl.goes (Twists.any system) hu ht hs with
      | @held db faults twist hold htold _ _ _ hdb =>
        refine ⟨.leaving (getElem?_setTask_self hlen _) ⟨hl.connections, hl.deadline, rfl⟩ ?_,
          fun publication hp => ?_⟩
        · exact hsilent.waits hdb
        · rw [publication?_of_told_none htold] at hp
          cases hp
      | @told db faults ran answer htold _ htells =>
        refine ⟨behind_giveBack ?_ ?_ ?_ _, ?_⟩
        · exact ho.nodup
        · exact ho.lt_next _ hin
        · exact hlen
        · intro publication hp
          have hnone := hsilent.not_published htells
          rw [publication?_of_told htold] at hp
          dsimp only at hp
          split at hp <;> simp_all
    · have htouched := not_touched_of_claims ho hs ht hl.mem_claims hm
      have hspares := spares_of_claims ho hs ht hl.mem_claims hm
      obtain ⟨task', ht', hl', -⟩ := hl.of_step hs ht hm
      exact ⟨.leaving ht' hl' (hsilent.of_untouched hspares.untouched),
        fun _ => publication?_of_not_touched htouched⟩

/-- Nothing is locked on a connection that nobody works on, and it is free again. -/
theorem free (h : Behind system connection) (ho : Orderly [] [] system)
    (hidle : ∀ task ∈ system.tasks, connection ∉ task.claims) :
    connection ∉ system.inUse ∧ ∀ account, (account, connection) ∉ system.db.locks := by
  cases h with
  | leaving ht hl _ =>
    exact absurd hl.mem_claims (hidle _ (List.mem_of_getElem? ht))
  | gone hfree _ => exact ⟨hfree, fun account hm => hfree (ho.inUse_of_locks hm)⟩

end Behind

end Passbook.System
