import Passbook.Proofs.Operation.StandAlone

/-! # Operations in turn

Somebody has operations done one after another, on connections of their own or standing alone, and
nothing else happens (`System.InTurn`). Between two of them the system is quiet: no task is under way
(`System.Quiet`), and as long as operations stand alone no connection is in use either
(`System.Unused`). -/

namespace Passbook

namespace System

variable {system after : System} {inUse hands : List Nat} {connection : Nat} {past : Past} {task : Task}
  {work : Work Reply} {Always : Database → Prop} {Ends : Desk → Reply → Prop}

/-- No task is under way, and these connections are in use. -/
structure Quiet (inUse : List Nat) (system : System) : Prop where
  orderly : Orderly [] [] system
  faults : system.faults = []
  finished : ∀ task ∈ system.tasks, task.stage.isFinished = true
  inUse : system.inUse = inUse

/-- Nobody is connected, and the pool has a connection to give. -/
structure Unused (system : System) : Prop extends Quiet [] system where
  opened : system.closed = false
  room : 0 < system.capacity

theorem unused_start {db : Database} {capacity : Nat} (hrest : db.AtRest) (hroom : 0 < capacity) :
    Unused (.start db capacity) where
  orderly := orderly_start hrest capacity
  faults := rfl
  finished _ hmem := absurd hmem List.not_mem_nil
  inUse := rfl
  opened := rfl
  room := hroom

/-- In a quiet system nobody works on a connection. -/
theorem Quiet.isIdle (h : system.Quiet inUse) (hmem : connection ∈ inUse) :
    system.isIdle connection = true := by
  refine isIdle_iff.mpr ⟨h.inUse ▸ hmem, ?_⟩
  refine List.sum_eq_zero fun count hcount => ?_
  obtain ⟨task, htask, rfl⟩ := List.mem_map.mp hcount
  simp [Task.claims, h.finished task htask]

/-- It is quiet again when somebody has been served. -/
theorem Served.quiet (h : Served Always Ends system past after task) (hquiet : system.Quiet hands)
    (hserves : system.Serves hands work past after task) (hinUse : after.inUse = inUse) :
    after.Quiet inUse where
  orderly := h.orderly
  faults := h.faults
  finished := by
    rw [h.tasks, List.forall_mem_append]
    exact ⟨hquiet.finished, List.forall_mem_singleton.mpr hserves.finished⟩
  inUse := hinUse

/-- When nobody is connected, no row is locked. -/
theorem Unused.ready (h : system.Unused) : (system.desk [] []).Ready where
  opened := h.opened
  room := by
    change system.inUse.length < system.capacity
    rw [h.inUse]
    exact h.room
  told := rfl
  free account := by
    have hnone : system.db.holder? account = none := by
      refine Database.holder?_eq_none_iff.mpr fun connection hlocked => ?_
      have hsome := h.orderly.locks.isSome account connection hlocked
      rw [Database.transaction?, h.orderly.fresh connection (by simp [h.inUse])] at hsome
      cases hsome
    change system.db.lockable _ account = true
    rw [Database.lockable, hnone]
    rfl

/-- What is attained with the pool left as it was is attained by whoever comes, and afterwards nobody is
connected. -/
theorem Unused.serves (h : system.Unused)
    (hwork : work.Attains (fun _ => True) Ends (system.desk [] []))
    (hpool : ∀ desk' reply, Ends desk' reply →
      (desk'.capacity, desk'.closed, desk'.inUse) = (system.capacity, system.closed, system.inUse)) :
    (∃ past after task, system.Serves [] work past after task) ∧
      ∀ past after task, system.Serves [] work past after task → after.Unused ∧
        ∃ reply, task.reply = some reply ∧
          Ends (after.desk task.connections task.progress) reply := by
  refine ⟨exists_serves h.orderly h.faults List.nodup_nil (fun _ hmem => absurd hmem
    List.not_mem_nil) hwork, fun past after task hserves => ?_⟩
  have hserved := hserves.attained h.orderly h.faults trivial hwork
  obtain ⟨reply, hreply, hends⟩ := hserved.ends
  obtain ⟨hcapacity, hclosed, hinUse⟩ : after.capacity = system.capacity ∧
      after.closed = system.closed ∧ after.inUse = system.inUse := by
    simpa [System.desk] using hpool _ reply hends
  refine ⟨⟨hserved.quiet h.toQuiet hserves (hinUse.trans h.inUse), ?_, ?_⟩, reply, hreply, hends⟩
  · exact hclosed.trans h.opened
  · rw [hcapacity]
    exact h.room

/-- What there is when work that stands alone has been done: what it comes to on a fresh page is
committed. -/
structure Committed (system after : System) (page : Page) : Prop where
  books : after.db.books = page.view
  users : after.db.users = system.db.users
  tables : after.db.tables = system.db.tables
  draws : after.db.draws = system.db.draws
  serial : after.db.serial = page.around.serial

/-- An operation that stands alone, when nobody else is there. -/
theorem Unused.serves_pooled {runner : Runner} (h : system.Unused) (hadmits : runner.Admits)
    (opened : List Int) (operation : Operation) :
    (∃ past after task, system.Serves [] (operation.work runner .pooled opened) past after task) ∧
      ∀ past after task, system.Serves [] (operation.work runner .pooled opened) past after task →
        after.Unused ∧ ∃ clock page reply, task.reply = some reply ∧
          (operation.work runner .callers opened).inside (system.db.freshPage clock) =
            (page, reply) ∧ system.Committed after page := by
  obtain ⟨hexists, hdone⟩ := h.serves
    (@Operation.attains_pooled runner opened _ h.ready rfl hadmits operation) fun desk' reply hcomes => by
      obtain ⟨_, -, -, hleaves⟩ := hcomes
      exact hleaves.pool
  refine ⟨hexists, fun past after task hserves => ?_⟩
  obtain ⟨hunused, reply, hreply, clock, rfl, -, hleaves⟩ := hdone past after task hserves
  exact ⟨hunused, clock, _, _, hreply, rfl,
    ⟨hleaves.books, hleaves.users, hleaves.tables, hleaves.draws, hleaves.serial⟩⟩

/-! ## In turn -/

/-- The operations are done in turn, each undisturbed, with these replies. -/
inductive InTurn (runner : Runner) (place : Place) (connections : List Nat) :
    System → List Int → List Operation → Past → System → List Reply → Prop
  | nil {system : System} {opened : List Int} :
      InTurn runner place connections system opened [] [] system []
  | cons {system middle after : System} {opened : List Int} {operation : Operation}
      {operations : List Operation} {past later : Past} {task : Task} {reply : Reply}
      {replies : List Reply} :
      system.Serves connections (operation.work runner place opened) past middle task →
      task.reply = some reply →
      InTurn runner place connections middle (opened ++ reply.opened?.toList) operations later after
        replies →
      InTurn runner place connections system opened (operation :: operations) (past ++ later) after
        (reply :: replies)

/-- When nobody else is there, operations that stand alone can be done in turn. -/
theorem Unused.exists_inTurn {runner : Runner} (h : system.Unused) (hadmits : runner.Admits)
    (opened : List Int) (operations : List Operation) :
    ∃ past after replies, system.InTurn runner .pooled [] opened operations past after replies := by
  induction operations generalizing system opened with
  | nil => exact ⟨[], system, [], .nil⟩
  | cons operation operations ih =>
    obtain ⟨⟨past, middle, task, hserves⟩, hdone⟩ := h.serves_pooled hadmits opened operation
    obtain ⟨hunused, _, _, reply, hreply, -⟩ := hdone past middle task hserves
    obtain ⟨later, after, replies, hturn⟩ := ih hunused (opened ++ reply.opened?.toList)
    exact ⟨_, after, _, .cons hserves hreply hturn⟩

end System

end Passbook
