import Mathlib.Algebra.BigOperators.Group.List.Basic
import Mathlib.Algebra.GroupWithZero.Nat
import Passbook.Proofs.System.Moves

/-! # Who works on which connection

A connection that was taken from the pool is worked on by one unfinished task at most, and one that is
in nobody's hands is as good as new (`Orderly`). While the work of a task is carried on, its
connections are counted as `held` in place of those that it had `former`ly. A task that moves
therefore leaves the connections of all others untouched. -/

namespace Passbook

/-- The connections that a task works on. -/
def Task.claims (task : Task) : List Nat :=
  if task.stage.isFinished then [] else task.connections

theorem Task.claims_eq {task : Task} (h : task.stage.isFinished = false) :
    task.claims = task.connections := by
  simp [claims, h]

theorem Task.count_claims_le (task : Task) (connection : Nat) :
    task.claims.count connection ≤ task.connections.count connection := by
  unfold claims
  split <;> simp

namespace System

variable {Allowed : Twist → Prop} {system after : System} {former held : List Nat}
  {connection : Nat}

/-- How many tasks work on a connection. -/
def claimed (system : System) (connection : Nat) : Nat :=
  (system.tasks.map fun task => task.claims.count connection).sum

/-- Connections are worked on by one task at most, and those that nobody has taken are fresh. -/
structure Orderly (former held : List Nat) (system : System) : Prop where
  claimed_le : ∀ connection, system.claimed connection + held.count connection ≤
    former.count connection + system.inUse.count connection
  nodup : system.inUse.Nodup
  lt_next : ∀ connection ∈ system.inUse, connection < system.nextConnection
  fresh : ∀ connection, connection ∉ system.inUse → system.db.session connection = .fresh
  locks : system.db.LocksSound

/-! ## Counting -/

theorem sum_set {rows : List Nat} {index : Nat} {old : Nat} (h : rows[index]? = some old)
    (new : Nat) : (rows.set index new).sum + old = rows.sum + new := by
  induction rows generalizing index with
  | nil => cases h
  | cons row rows ih =>
    cases index with
    | zero => cases h; simp only [List.set_cons_zero, List.sum_cons]; omega
    | succ index =>
      have hrest := @ih index (by simpa using h)
      simp only [List.set_cons_succ, List.sum_cons]
      omega

theorem add_le_sum {rows : List Nat} {i j : Nat} {m n : Nat} (hne : i ≠ j)
    (hi : rows[i]? = some m) (hj : rows[j]? = some n) : m + n ≤ rows.sum := by
  have hset := sum_set hi 0
  have hj' : (rows.set i 0)[j]? = some n := by rw [List.getElem?_set_ne hne]; exact hj
  have hset' := sum_set hj' 0
  omega

theorem getElem?_counts {index : Nat} {task : Task} (h : system.tasks[index]? = some task)
    (connection : Nat) :
    (system.tasks.map fun task => task.claims.count connection)[index]? =
      some (task.claims.count connection) := by
  simp [h]

theorem claimed_setTask {index : Nat} {old : Task} (h : system.tasks[index]? = some old)
    (task : Task) (connection : Nat) :
    (system.setTask index task).claimed connection + old.claims.count connection =
      system.claimed connection + task.claims.count connection := by
  unfold claimed setTask
  rw [List.map_set]
  exact sum_set (getElem?_counts h connection) _

theorem claimed_append (system : System) (task : Task) (connection : Nat) :
    claimed { system with tasks := system.tasks ++ [task] } connection =
      system.claimed connection + task.claims.count connection := by
  simp [claimed]

theorem count_le_claimed {index : Nat} {task : Task} (h : system.tasks[index]? = some task)
    (connection : Nat) : task.claims.count connection ≤ system.claimed connection := by
  have hset := sum_set (getElem?_counts h connection) 0
  unfold claimed
  omega

/-! ## Tasks that others leave behind -/

/-- Carrying work on adds nothing but rollbacks to the tasks. -/
theorem tasks_proceed (system : System) (task : Task) (work : Work Reply) :
    ∃ left : List Nat,
      (system.proceed task work).1.tasks = system.tasks ++ left.map .cleanup := by
  induction work generalizing system task with
  | done | connect | exec => exact ⟨[], by simp [proceed]⟩
  | giveBack rest ih =>
    unfold proceed
    split
    · exact ih system task
    · rename_i connection connections _
      obtain ⟨left, hl⟩ := ih (system.giveBack connection) { task with connections }
      unfold giveBack at hl ⊢
      dsimp only at hl ⊢
      split at hl
      · rename_i hopen
        rw [if_pos hopen]
        exact ⟨connection :: left, by rw [hl]; simp⟩
      · rename_i hopen
        rw [if_neg hopen]
        exact ⟨left, hl⟩
  | draw next ih => exact ih _ { system with db.serial := system.db.serial + 1 } task
  | report reply rest ih => exact ih system { task with progress := _ }

theorem getElem?_proceed {index : Nat} (h : index < system.tasks.length) (task : Task)
    (work : Work Reply) :
    (system.proceed task work).1.tasks[index]? = system.tasks[index]? := by
  obtain ⟨left, hl⟩ := tasks_proceed system task work
  rw [hl, List.getElem?_append_left h]

theorem getElem?_carryOn_self {index : Nat} (h : index < system.tasks.length) (task : Task)
    (work : Work Reply) :
    (system.carryOn index task work).tasks[index]? = some (system.proceed task work).2 := by
  obtain ⟨left, hl⟩ := tasks_proceed system task work
  simp only [carryOn, setTask, hl]
  rw [List.getElem?_set_self (by simp; omega)]

theorem getElem?_carryOn_ne {index other : Nat} (h : other < system.tasks.length)
    (hne : other ≠ index) (task : Task) (work : Work Reply) :
    (system.carryOn index task work).tasks[other]? = system.tasks[other]? := by
  simp only [carryOn, setTask]
  rw [List.getElem?_set_ne (Ne.symm hne), getElem?_proceed h]

namespace Orderly

theorem inUse_of_claims (h : Orderly [] [] system) {index : Nat} {task : Task}
    (ht : system.tasks[index]? = some task) (hc : connection ∈ task.claims) :
    connection ∈ system.inUse := by
  have hle := count_le_claimed ht connection
  have hpos := List.count_pos_iff.mpr hc
  have hbound := h.claimed_le connection
  simp only [List.count_nil] at hbound
  exact List.count_pos_iff.mp (by omega)

/-- Locks are held on connections that are in use. -/
theorem inUse_of_locks (h : Orderly [] [] system) {account : Int}
    (hm : (account, connection) ∈ system.db.locks) : connection ∈ system.inUse := by
  by_contra hfree
  have hopen := h.locks.isSome account connection hm
  rw [Database.transaction?, h.fresh connection hfree] at hopen
  cases hopen

/-- No two tasks work on one connection. -/
theorem eq_of_claims (h : Orderly [] [] system) {i j : Nat} {task other : Task}
    (hi : system.tasks[i]? = some task) (hj : system.tasks[j]? = some other)
    (hc : connection ∈ task.claims) (ho : connection ∈ other.claims) : i = j := by
  by_contra hne
  have hsum := add_le_sum hne (getElem?_counts hi connection) (getElem?_counts hj connection)
  have hpos := List.count_pos_iff.mpr hc
  have hpos' := List.count_pos_iff.mpr ho
  have hbound := h.claimed_le connection
  have hone := List.nodup_iff_count_le_one.mp h.nodup connection
  simp only [List.count_nil] at hbound
  unfold claimed at hbound
  omega

/-! ## Giving back -/

theorem giveBack (h : Orderly former (connection :: held) system) :
    Orderly former held (system.giveBack connection) := by
  unfold System.giveBack
  dsimp only
  split
  · refine ⟨?_, h.nodup, h.lt_next, ?_, h.locks.note ..⟩
    · intro other
      have hle := h.claimed_le other
      have happend := claimed_append { system with db := system.db.note connection false }
        (.cleanup connection) other
      have hone : (Task.cleanup connection).claims = [connection] := rfl
      rw [hone, List.count_singleton] at happend
      rw [List.count_cons] at hle
      change claimed { system with tasks := _, db := _ } other + _ ≤ _
      rw [happend]
      change system.claimed other + _ + _ ≤ _
      dsimp only
      omega
    · intro other ho
      have hin : connection ∈ system.inUse := by
        by_contra hnot
        rename_i hopen
        rw [h.fresh connection hnot] at hopen
        cases hopen
      have hne : other ≠ connection := by rintro rfl; exact ho hin
      rw [(Database.Untouched.note hne system.db false).session]
      exact h.fresh other ho
  · refine ⟨?_, h.nodup.erase _, fun other ho => h.lt_next other (List.mem_of_mem_erase ho),
      ?_, h.locks.close connection⟩
    · intro other
      have hle := h.claimed_le other
      rw [List.count_cons] at hle
      change system.claimed other + _ ≤ _
      rw [List.count_erase]
      omega
    · intro other ho
      by_cases he : other = connection
      · simp [he]
      · rw [(Database.Untouched.close he system.db).session]
        exact h.fresh other fun hm => ho ((List.mem_erase_of_ne he).mpr hm)

/-- What is done with serial numbers does not matter. -/
theorem of_serial (h : Orderly former held system) (serial : Nat) :
    Orderly former held { system with db.serial := serial } :=
  ⟨h.claimed_le, h.nodup, h.lt_next, h.fresh, ⟨h.locks.nodup, h.locks.isSome⟩⟩

theorem proceed (work : Work Reply) {task : Task}
    (h : Orderly former task.connections system) :
    Orderly former (system.proceed task work).2.connections (system.proceed task work).1 := by
  induction work generalizing system task with
  | done reply => exact h
  | connect next => exact h
  | exec statement next => exact h
  | giveBack rest ih =>
    unfold System.proceed
    split
    · exact ih h
    · rename_i connection connections hc
      rw [hc] at h
      refine ih ?_
      exact h.giveBack
  | draw next ih => exact ih _ (h.of_serial _)
  | report reply rest ih =>
    refine ih ?_
    exact h

/-- A task takes its place again. -/
theorem setTask {index : Nat} {old task : Task} (h : Orderly old.claims held system)
    (hold : system.tasks[index]? = some old) (hc : task.connections = held) :
    Orderly [] [] (system.setTask index task) := by
  subst hc
  refine ⟨fun connection => ?_, h.nodup, h.lt_next, h.fresh, h.locks⟩
  have hle := h.claimed_le connection
  have hset := claimed_setTask hold task connection
  have hclaims := task.count_claims_le connection
  change claimed (system.setTask index task) connection + _ ≤ _ + system.inUse.count connection
  simp only [List.count_nil]
  omega

theorem carryOn {index : Nat} {old task : Task} (h : Orderly old.claims held system)
    (hold : system.tasks[index]? = some old) (hc : task.connections = held)
    (work : Work Reply) : Orderly [] [] (system.carryOn index task work) := by
  subst hc
  have hindex : index < system.tasks.length := (List.getElem?_eq_some_iff.mp hold).1
  exact (h.proceed work).setTask (by rw [getElem?_proceed hindex, hold]) rfl

/-- The connections of an unfinished task may be taken in hand. -/
theorem take (h : Orderly [] [] system) {task : Task} (hf : task.stage.isFinished = false) :
    Orderly task.claims task.connections system := by
  have hclaims := Task.claims_eq hf
  refine ⟨fun connection => ?_, h.nodup, h.lt_next, h.fresh, h.locks⟩
  have hle := h.claimed_le connection
  simp only [List.count_nil] at hle
  rw [hclaims]
  omega

/-- What happens in the database on a connection in use. -/
theorem of_db (h : Orderly former held system) {db : Database} (hc : connection ∈ system.inUse)
    (hu : ∀ other, other ≠ connection → Database.Untouched other system.db db)
    (hl : db.LocksSound) : Orderly former held { system with db } :=
  ⟨h.claimed_le, h.nodup, h.lt_next, fun other ho => by
    rw [(hu other (by rintro rfl; exact ho hc)).session]
    exact h.fresh other ho, hl⟩

/-! ## Moves -/

theorem connect (h : Orderly [] [] system) {task : Task} (hf : task.stage.isFinished = false) :
    Orderly task.claims (system.nextConnection :: task.connections)
      { system with
        inUse := system.nextConnection :: system.inUse
        nextConnection := system.nextConnection + 1 } := by
  have htake := h.take hf
  refine ⟨?_, ?_, ?_, ?_, h.locks⟩
  · intro connection
    have hle := htake.claimed_le connection
    change system.claimed connection + _ ≤ _
    simp only [List.count_cons]
    omega
  · exact List.nodup_cons.mpr
      ⟨fun hm => Nat.lt_irrefl _ (h.lt_next _ hm), h.nodup⟩
  · intro connection hc
    rcases List.mem_cons.mp hc with rfl | hc
    · exact Nat.lt_succ_self _
    · exact Nat.lt_succ_of_lt (h.lt_next _ hc)
  · intro connection hc
    exact h.fresh connection fun hm => hc (List.mem_cons_of_mem _ hm)

/-- A statement of a task, and what it met and came to. -/
theorem arrive (h : Orderly [] [] system) {move : Move} {arrival : Arrival}
    (ha : Arrives Allowed system move arrival) :
    Orderly [] [] (arrival.system.settle arrival.sending arrival.fate) := by
  obtain ⟨⟨index, task, connection, statement, next⟩, met, fate⟩ := arrival
  obtain ⟨hindex, htask, hstage, hc, ⟨hmet, -, hdb⟩, hfate, -⟩ := ha
  dsimp only at hindex htask hstage hc hmet hdb hfate fate ⊢
  subst hindex
  have hf := Stage.isFinished_of_work hstage
  have hclaims : connection ∈ task.claims := by
    simpa [Task.claims, hf] using List.mem_of_head? hc
  have hin := h.inUse_of_claims htask hclaims
  have hmeets : Orderly task.claims task.connections met := by
    have hall : (∀ other, other ≠ connection → Database.Untouched other system.db met.db) ∧
        met.db.LocksSound := by
      rcases hdb with hdb | ⟨-, -, hdb⟩ <;> rw [hdb]
      · exact ⟨fun other _ => .refl other _, h.locks⟩
      · exact ⟨fun other ho => .note ho _ true, h.locks.note ..⟩
    rw [hmet]
    have hdb := (h.take hf).of_db hin hall.1 hall.2
    exact ⟨hdb.claimed_le, hdb.nodup, hdb.lt_next, hdb.fresh, hdb.locks⟩
  have hinmet : connection ∈ met.inUse := by rw [hmet]; exact hin
  have htaskmet : met.tasks[move.index]? = some task := by rw [hmet]; exact htask
  cases hfate with
  | held _ hwaits =>
    have hheld := hmeets.of_db hinmet (fun _ ho => hwaits.untouched ho) (hwaits.locksSound hmeets.locks)
    exact hheld.setTask htaskmet rfl
  | @answered db ran answer hanswers =>
    have hu : ∀ other, other ≠ connection → Database.Untouched other met.db
        (if statement.isEnd && answer.toBool then db.note connection false else db) := by
      intro other ho
      split
      · exact (hanswers.untouched ho).trans (.note ho _ false)
      · exact hanswers.untouched ho
    have hl : Database.LocksSound
        (if statement.isEnd && answer.toBool then db.note connection false else db) := by
      split
      · exact (hanswers.locksSound hmeets.locks).note _ _
      · exact hanswers.locksSound hmeets.locks
    exact (hmeets.of_db hinmet hu hl).carryOn htaskmet rfl _

theorem moves (h : Orderly [] [] system) {move : Move}
    (hm : Moves Allowed system move after) : Orderly [] [] after := by
  cases hm with
  | connected _ ht _ hf _ => exact (h.connect hf).carryOn ht rfl _
  | turnedAway _ _ ht _ hf => exact (h.take hf).carryOn ht rfl _
  | arrived _ ha => exact h.arrive ha
  | gaveUp _ ht _ hb _ => exact (h.take (Stage.isFinished_of_isBounded hb)).carryOn ht (by rfl) _
  | leftBehind _ ht _ hs _ => exact (h.take (by rw [hs]; rfl)).setTask ht rfl

end Orderly

end System

end Passbook
