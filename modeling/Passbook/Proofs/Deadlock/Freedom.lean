import Mathlib.Algebra.BigOperators.Group.Finset.Piecewise
import Mathlib.Algebra.Order.BigOperators.Group.Finset
import Mathlib.Data.Finset.Max
import Mathlib.Logic.Relation
import Passbook.Proofs.Deadlock.Flow

/-! # Transfers never deadlock

In a run without faults in which any number of transfers are executed, without deadlines and without a
bound on their lock waits, nobody waits in a circle, and as long as a transfer is not finished one of
those that are not can go on (`transfers_deadlockFree`). The order is that of the account numbers: a
task waits for a row with a greater number than those of all rows that it has locked. Whoever waits
for a connection has none, and whoever has one is not waiting for another. -/

namespace Passbook

/-- Whether the move takes a task further: it gets its connection, its statement is sent, or the lock
that it has waited for is free. -/
def Move.isOnward : Move → Bool
  | connect _ | send _ | wake _ => true
  | turnAway _ | expire _ | abandon _ => false

namespace Past

variable {past : Past} {n : Nat}

/-- How many moves all tasks have made. -/
def allMoves (past : Past) : Nat := past.countP fun (_, event) => event.mover?.isSome

/-- All moves are those of the tasks that there are. -/
theorem allMoves_eq_sum
    (h : ∀ entry ∈ past, ∀ index, entry.2.mover? = some index → index < n) :
    past.allMoves = ∑ index ∈ Finset.range n, past.moves index := by
  induction past with
  | nil => simp [allMoves, moves]
  | cons entry past ih =>
    have hrest := ih fun entry hmem => h entry (List.mem_cons_of_mem _ hmem)
    have hfirst := h entry List.mem_cons_self
    unfold allMoves moves at hrest ⊢
    simp only [List.countP_cons, Finset.sum_add_distrib, hrest]
    congr 1
    cases hm : entry.2.mover? with
    | none => simp
    | some index =>
      have hmem := Finset.mem_range.mpr (hfirst index hm)
      simp only [Option.isSome_some, if_true, beq_iff_eq, Option.some.injEq]
      rw [Finset.sum_ite_eq, if_pos hmem]

end Past

/-- The tasks that have moved are there. -/
theorem Run.lt_of_mover {start system before : System} {past : Past} {event : Event} {index : Nat}
    (h : Run start past system) (hmem : (before, event) ∈ past) (hm : event.mover? = some index) :
    index < system.tasks.length := by
  induction h with
  | refl => cases hmem
  | step _ hs ih =>
    have hle := System.length_le_step hs
    rcases List.mem_append.mp hmem with hmem | hmem
    · exact Nat.lt_of_lt_of_le (ih hmem) hle
    · cases List.mem_singleton.mp hmem
      exact Nat.lt_of_lt_of_le (System.lt_length_of_mover hs hm) hle

namespace System

/-- The row whose lock a task waits for. -/
def wanted? (system : System) (index : Nat) : Option Int := do
  let task ← system.tasks[index]?
  let statement ← task.stage.underWay?
  let connection ← task.connections.head?
  system.db.obstacle? connection statement

/-- One task waits for the lock on a row that another one has locked. -/
def WaitsFor (system : System) (waiter holder : Nat) : Prop :=
  ∃ account connection task, system.wanted? waiter = some account ∧
    system.db.holder? account = some connection ∧ system.tasks[holder]? = some task ∧
    connection ∈ task.claims

variable {Hasty : Prop} {limit capacity : Nat} {past : Past} {system : System}
  {connection index waiter holder : Nat} {task : Task} {account held : Int} {statement : Statement}
  {next : statement.Answer → Work Reply}

theorem wanted?_of_work (ht : system.tasks[index]? = some task)
    (hc : task.connections.head? = some connection) (hw : task.stage.work = .exec statement next) :
    system.wanted? index =
      if task.stage.isSent then system.db.obstacle? connection statement else none := by
  have hunder := Stage.underWay?_of_work hw
  cases hsent : task.stage.isSent <;> simp [wanted?, ht, hc, hunder, hsent]

theorem lt_length_of_wanted (h : system.wanted? index = some account) :
    index < system.tasks.length := by
  obtain ⟨task, ht, -⟩ := Option.bind_eq_some_iff.mp h
  exact (List.getElem?_eq_some_iff.mp ht).1

/-- Of all the rows that are waited for one has the greatest number. -/
theorem exists_greatest (h : system.wanted? index = some account) :
    ∃ index account, system.wanted? index = some account ∧
      ∀ other wanted, system.wanted? other = some wanted → wanted ≤ account := by
  let waiters := (Finset.range system.tasks.length).filter fun index =>
    (system.wanted? index).isSome = true
  have hmem : ∀ {index account}, system.wanted? index = some account → index ∈ waiters := by
    intro index account hwanted
    simp [waiters, lt_length_of_wanted hwanted, hwanted]
  obtain ⟨index, hindex, hmax⟩ := Finset.exists_max_image waiters
    (fun index => (system.wanted? index).getD 0) ⟨index, hmem h⟩
  obtain ⟨account, haccount⟩ := Option.isSome_iff_exists.mp (Finset.mem_filter.mp hindex).2
  refine ⟨index, account, haccount, fun other wanted hwanted => ?_⟩
  have hle := hmax other (hmem hwanted)
  simpa [haccount, hwanted] using hle

namespace Climber

theorem paced (h : Climber Hasty limit past system index task) :
    past.statements index ≤ limit ∧ past.moves index ≤ 2 * limit + 1 := by
  cases h with
  | waiting _ _ _ _ hpaced =>
    obtain ⟨hstatements, hmoves⟩ := hpaced
    simp only [Bool.toNat_true] at hstatements hmoves
    omega
  | finished _ _ hpaced =>
    obtain ⟨hstatements, hmoves⟩ := hpaced
    simp only [Bool.toNat_false] at hstatements hmoves
    omega
  | asking _ _ _ _ _ hasc hpaced =>
    obtain ⟨hstatements, hmoves⟩ := hpaced
    have hle := Bool.toNat_le task.stage.isSent
    obtain ⟨rest, rfl⟩ := hasc.left_eq
    omega

theorem reply_of_isFinished (h : Climber Hasty limit past system index task)
    (hf : task.stage.isFinished = true) : task.reply.isSome = true := by
  cases h with
  | finished _ hreply => exact hreply
  | asking _ hask => cases hask.isFinished.symm.trans hf
  | waiting _ _ hwait =>
    have hwork := hwait.work
    rw [UnitOfWork.work_eq] at hwork
    cases hs : task.stage with
    | finished =>
      rw [hs] at hwork
      cases hwork
    | queued | ready | sent =>
      rw [hs] at hf
      cases hf

/-- Whoever works on a connection is an ascending unit that has something to ask. -/
theorem asking_of_claims (h : Climber Hasty limit past system index task) (hc : connection ∈ task.claims) :
    ∃ unit phase left, Asking unit task connection phase ∧ task.stage.AwaitsLock ∧
      phase.Ascends unit system.db connection left := by
  have hconnections : connection ∈ task.connections := by
    unfold Task.claims at hc
    split at hc
    · cases hc
    · exact hc
  cases h with
  | waiting _ _ hwait =>
    rw [hwait.connections] at hconnections
    cases hconnections
  | finished hf =>
    rw [Task.claims, if_pos hf] at hc
    cases hc
  | asking _ hask _ hl _ hasc =>
    rw [hask.connections] at hconnections
    obtain rfl := List.mem_singleton.mp hconnections
    exact ⟨_, _, _, hask, hl, hasc⟩

/-- A task waits for a row with a greater number than those that it has locked. -/
theorem lt_wanted (h : Climber Hasty limit past system index task) (ht : system.tasks[index]? = some task)
    (hl : system.db.LocksSound) (hc : connection ∈ task.claims)
    (hheld : system.db.Holds connection held) (hw : system.wanted? index = some account) :
    held < account := by
  obtain ⟨unit, phase, left, hask, -, hasc⟩ := h.asking_of_claims hc
  obtain ⟨statement, next, hwork, hasks⟩ := hask.asks
  rw [wanted?_of_work ht (by rw [hask.connections]; rfl) hwork] at hw
  split at hw
  · exact hasc.lt_of_obstacle hl hasks hw hheld
  · cases hw

/-- A task that has a connection can go on, or it waits for a lock. -/
theorem goesOn (h : Climber Hasty limit past system index task) (ht : system.tasks[index]? = some task)
    (hc : connection ∈ task.claims) :
    (∃ move : Move, move.isOnward = true ∧ (system.step (.move move)).isSome = true) ∨
      ∃ account, system.wanted? index = some account := by
  obtain ⟨unit, phase, left, hask, hl, -⟩ := h.asking_of_claims hc
  obtain ⟨statement, next, hwork, -⟩ := hask.asks
  have hhead : task.connections.head? = some connection := by rw [hask.connections]; rfl
  have hwanted := wanted?_of_work ht hhead hwork
  cases hs : task.stage with
  | queued | finished =>
    rw [hs] at hwork
    cases hwork
  | ready => exact .inl ⟨.send index, rfl, isSome_send ht hs hhead⟩
  | sent =>
    rw [hs] at hl hwork hwanted
    cases hwork
    obtain ⟨-, since, rfl⟩ := hl
    cases hobstacle : system.db.obstacle? connection statement with
    | none => exact .inl ⟨.wake index, rfl, isSome_wake ht hs hhead hobstacle⟩
    | some account => exact .inr ⟨account, hwanted.trans hobstacle⟩

end Climber

namespace Flowing

/-- A lock that a task waits for is held by another one. -/
theorem waitsFor (h : Flowing Hasty limit capacity past system) (ho : Orderly [] [] system)
    (hw : system.wanted? waiter = some account) : ∃ holder, system.WaitsFor waiter holder := by
  have hobstacle := hw
  simp only [wanted?, Option.bind_eq_bind, Option.bind_eq_some_iff] at hobstacle
  obtain ⟨_, -, statement, -, own, -, hobstacle⟩ := hobstacle
  have hbusy := (Option.filter_eq_some_iff.mp hobstacle).2
  cases hholder : system.db.holder? account with
  | none => simp [Database.lockable, hholder] at hbusy
  | some connection =>
    have hin := ho.inUse_of_locks (Database.mem_of_holder? hholder)
    obtain ⟨holder, task, ht, hclaims⟩ := h.claimed connection hin
    exact ⟨holder, account, connection, task, hw, hholder, ht, hclaims⟩

/-- Along a chain of waits the rows that are waited for have greater and greater numbers. -/
theorem chain (h : Flowing Hasty limit capacity past system) (hl : system.db.LocksSound)
    (hchain : Relation.TransGen system.WaitsFor waiter holder) :
    ∃ account, system.wanted? waiter = some account ∧
      ∀ wanted, system.wanted? holder = some wanted → account < wanted := by
  have hlt : ∀ {account wanted connection holder task}, system.db.holder? account = some connection →
      system.tasks[holder]? = some task → connection ∈ task.claims →
      system.wanted? holder = some wanted → account < wanted := by
    intro account wanted connection holder task hholder ht hclaims hw
    exact (h.climber holder task ht).lt_wanted ht hl hclaims (Database.mem_of_holder? hholder) hw
  induction hchain with
  | single hwaits =>
    obtain ⟨account, connection, task, hwaiter, hholder, ht, hclaims⟩ := hwaits
    exact ⟨account, hwaiter, fun wanted => hlt hholder ht hclaims⟩
  | tail _ hwaits ih =>
    obtain ⟨first, hfirst, hle⟩ := ih
    obtain ⟨account, connection, task, hmiddle, hholder, ht, hclaims⟩ := hwaits
    refine ⟨first, hfirst, fun wanted hw => ?_⟩
    have hbefore := hle account hmiddle
    have hafter := hlt hholder ht hclaims hw
    omega

/-- Nobody waits for a lock in a circle. -/
theorem acyclic (h : Flowing Hasty limit capacity past system) (hl : system.db.LocksSound) (index : Nat) :
    ¬ Relation.TransGen system.WaitsFor index index := by
  intro hcircle
  obtain ⟨account, hw, hlt⟩ := h.chain hl hcircle
  exact Int.lt_irrefl account (hlt account hw)

/-- If a connection is in use, somebody can go on: of those who wait for a lock, the one who waits for
the row with the greatest number waits for a task that does not wait. -/
theorem goesOn_of_inUse (h : Flowing Hasty limit capacity past system) (ho : Orderly [] [] system)
    (hin : connection ∈ system.inUse) :
    ∃ move : Move, move.isOnward = true ∧ (system.step (.move move)).isSome = true := by
  obtain ⟨index, task, ht, hclaims⟩ := h.claimed connection hin
  rcases (h.climber index task ht).goesOn ht hclaims with hmove | ⟨account, hw⟩
  · exact hmove
  · obtain ⟨waiter, greatest, hwaiter, hmax⟩ := exists_greatest hw
    obtain ⟨holder, hwaits⟩ := h.waitsFor ho hwaiter
    obtain ⟨_, own, other, hwaiter', hholder, hother, hown⟩ := hwaits
    obtain rfl := Option.some.inj (hwaiter.symm.trans hwaiter')
    rcases (h.climber holder other hother).goesOn hother hown with hmove | ⟨wanted, hwanted⟩
    · exact hmove
    · have hle := hmax holder wanted hwanted
      have hlt := (h.climber holder other hother).lt_wanted hother ho.locks hown
        (Database.mem_of_holder? hholder) hwanted
      omega

/-- As long as a task is not finished, somebody can go on. -/
theorem goesOn (h : Flowing Hasty limit capacity past system) (ho : Orderly [] [] system)
    (hcapacity : 0 < capacity) (ht : system.tasks[index]? = some task)
    (hf : task.stage.isFinished = false) :
    ∃ move : Move, move.isOnward = true ∧ (system.step (.move move)).isSome = true := by
  by_cases hfree : system.inUse = []
  · cases h.climber index task ht with
    | finished hfinished => cases hf.symm.trans hfinished
    | @asking unit connection _ _ _ hask =>
      have hin := ho.inUse_of_claims ht hask.mem_claims
      rw [hfree] at hin
      cases hin
    | @waiting unit _ _ hwait =>
      have hwork := hwait.work
      rw [UnitOfWork.work_eq] at hwork
      cases hs : task.stage with
      | queued since next =>
        have hroom : system.inUse.length < system.capacity := by
          rw [hfree, h.capacity]
          exact hcapacity
        exact ⟨.connect index, rfl, isSome_connect ht hs h.closed hroom⟩
      | ready | sent | finished =>
        rw [hs] at hwork
        cases hwork
  · obtain ⟨connection, hin⟩ := List.exists_mem_of_ne_nil _ hfree
    exact h.goesOn_of_inUse ho hin

/-- Who waits for a connection has none. -/
theorem connections_of_queued (h : Flowing Hasty limit capacity past system)
    (ht : system.tasks[index]? = some task) {since : Nat}
    {next : Except StorageError Unit → Work Reply} (hs : task.stage = .queued since next) :
    task.connections = [] := by
  cases h.climber index task ht with
  | waiting _ _ hwait => exact hwait.connections
  | finished hf =>
    rw [hs] at hf
    cases hf
  | asking _ hask =>
    obtain ⟨_, _, hwork, -⟩ := hask.asks
    rw [hs] at hwork
    cases hwork

theorem statements_le (h : Flowing Hasty limit capacity past system) (index : Nat) :
    past.statements index ≤ limit := by
  by_cases hlt : index < system.tasks.length
  · exact (h.climber index _ (List.getElem?_eq_getElem hlt)).paced.1
  · have hstatements := (h.fresh index (by omega)).statements
    simp only [Bool.toNat_true] at hstatements
    omega

theorem allMoves_le (h : Flowing Hasty limit capacity past system) {start : System}
    (hrun : Run start past system) : past.allMoves ≤ (2 * limit + 1) * past.calls := by
  have hmovers : ∀ entry ∈ past, ∀ index, entry.2.mover? = some index →
      index < system.tasks.length := fun entry hmem index => hrun.lt_of_mover hmem
  rw [Past.allMoves_eq_sum hmovers, ← h.calls]
  calc ∑ index ∈ Finset.range system.tasks.length, past.moves index
      ≤ ∑ _ ∈ Finset.range system.tasks.length, (2 * limit + 1) := by
        refine Finset.sum_le_sum ?_
        intro index hindex
        have hlt := Finset.mem_range.mp hindex
        exact (h.climber index _ (List.getElem?_eq_getElem hlt)).paced.2
    _ = (2 * limit + 1) * system.tasks.length := by simp [Nat.mul_comm]

end Flowing

end System

/-- What is true of a run of transfers without faults at every moment. Its tasks are the transfers that
have come. Nobody waits for a row lock in a circle, or for a connection while having one, and as long
as a transfer is not finished one of those that are not can go on. No transfer sends more than eight
statements, and there is an end to the moves. When nobody can go on any more, all transfers are
finished and have been answered, no row is locked and all connections are free. -/
structure DeadlockFree (past : Past) (system : System) : Prop where
  calls : system.tasks.length = past.calls
  acyclic : ∀ index, ¬ Relation.TransGen system.WaitsFor index index
  emptyHanded : ∀ task ∈ system.tasks, ∀ since next, task.stage = .queued since next →
    task.connections = []
  goesOn : (∃ task ∈ system.tasks, task.stage.isFinished = false) →
    ∃ (move : Move) (task : Task), move.isOnward = true ∧
      system.tasks[move.index]? = some task ∧ task.stage.isFinished = false ∧
      (system.step (.move move)).isSome = true
  statements : ∀ index, past.statements index ≤ 8
  moves : past.allMoves ≤ 17 * past.calls
  ends : (∀ move : Move, move.isOnward = true → system.step (.move move) = none) →
    (∀ task ∈ system.tasks, task.stage.isFinished = true ∧ task.reply.isSome = true) ∧
      system.db.locks = [] ∧ system.inUse = []

/-- Transfers never deadlock: any number of them, with any commands, on a pool of any size but zero
and in any interleaving of their statements. -/
theorem transfers_deadlockFree {db : Database} {capacity : Nat} {past : Past} {system : System}
    (hrest : db.AtRest) (hcapacity : 0 < capacity) (hrun : Run (.start db capacity) past system)
    (hcalm : ∀ before event, (before, event) ∈ past → event.IsCalm) : DeadlockFree past system := by
  have ho := hrun.orderly (System.orderly_start hrest capacity)
  have hflow := hrun.flowing hrest fun before event hmem => (hcalm before event hmem).flows
  have hends : (∀ move : Move, move.isOnward = true → system.step (.move move) = none) →
      ∀ task ∈ system.tasks, task.stage.isFinished = true := by
    intro hstuck task hmem
    by_contra hf
    obtain ⟨index, ht⟩ := List.mem_iff_getElem?.mp hmem
    obtain ⟨move, honward, hmove⟩ := hflow.goesOn ho hcapacity ht (by simpa using hf)
    rw [hstuck move honward] at hmove
    cases hmove
  refine ⟨hflow.calls, hflow.acyclic ho.locks, ?_, ?_,
    hflow.statements_le, hflow.allMoves_le hrun, ?_⟩
  · intro task hmem since next hs
    obtain ⟨index, ht⟩ := List.mem_iff_getElem?.mp hmem
    exact hflow.connections_of_queued ht hs
  · rintro ⟨task, hmem, hf⟩
    obtain ⟨index, ht⟩ := List.mem_iff_getElem?.mp hmem
    obtain ⟨move, honward, hmove⟩ := hflow.goesOn ho hcapacity ht hf
    obtain ⟨after, hs⟩ := Option.isSome_iff_exists.mp hmove
    have hmover := List.getElem?_eq_getElem (System.lt_length_of_mover hs rfl)
    refine ⟨move, _, honward, hmover, ?_, hmove⟩
    by_contra hfinished
    exact System.not_mover_of_finished hs hmover (by simpa using hfinished) rfl
  · intro hstuck
    have hfree : system.inUse = [] := by
      by_contra hin
      obtain ⟨connection, hin⟩ := List.exists_mem_of_ne_nil _ hin
      obtain ⟨move, honward, hmove⟩ := hflow.goesOn_of_inUse ho hin
      rw [hstuck move honward] at hmove
      cases hmove
    refine ⟨fun task hmem => ⟨hends hstuck task hmem, ?_⟩, ?_, hfree⟩
    · obtain ⟨index, ht⟩ := List.mem_iff_getElem?.mp hmem
      exact (hflow.climber index task ht).reply_of_isFinished (hends hstuck task hmem)
    · refine List.eq_nil_iff_forall_not_mem.mpr ?_
      intro lock hlock
      have hin := @System.Orderly.inUse_of_locks _ lock.2 ho lock.1 hlock
      rw [hfree] at hin
      cases hin

/-- Two transfers between the same accounts in opposite directions, up to the moment at which both ask
for the row with the lower number. -/
def oppositeEvents : List Event :=
  [.spawn [] none
      (Call.replying .entry (Transfer.execute .default ⟨.nil, 1000000001, 1000000002, 30⟩)),
    .spawn [] none
      (Call.replying .entry (Transfer.execute .default ⟨.nil, 1000000002, 1000000001, 20⟩)),
    .move (.connect 0), .move (.connect 1), .move (.send 0), .move (.send 1), .move (.send 0),
    .move (.send 1)]

/-- The second transfer waits for the first one, which can go on. -/
theorem transfers_deadlockFree_opposite : ∃ past system,
    Run (.start pairLedger 2) past system ∧ system.WaitsFor 1 0 ∧ DeadlockFree past system := by
  have htrace : (System.start pairLedger 2).traces oppositeEvents (fun _ system =>
      system.wanted? 1 = some 1000000001 ∧ system.db.holder? 1000000001 = some 0 ∧
        system.tasks[0]?.map Task.claims = some [0]) = true := rfl
  obtain ⟨past, system, htrace, hend⟩ := System.exists_of_traces htrace
  obtain ⟨hwanted, hholder, hclaims⟩ := of_decide_eq_true hend
  obtain ⟨task, ht, hclaims⟩ := Option.map_eq_some_iff.mp hclaims
  have hcalm : ∀ event ∈ oppositeEvents, event.IsCalm := by
    simp only [oppositeEvents, List.forall_mem_cons, Event.IsCalm, true_and]
    exact ⟨⟨_, _, rfl, rfl⟩, ⟨_, _, rfl, rfl⟩, by simp⟩
  have hrun := System.run_of_trace? htrace
  refine ⟨past, system, hrun, ⟨_, 0, task, hwanted, hholder, ht, by simp [hclaims]⟩,
    transfers_deadlockFree ⟨rfl, rfl⟩ (by decide) hrun fun before event hmem => hcalm event ?_⟩
  rw [← System.events_of_trace? htrace]
  exact List.mem_map_of_mem hmem

end Passbook
