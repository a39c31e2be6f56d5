import Passbook.Proofs.Race.Racing

/-! # Transfers that are covered

In a smooth run of transfers, if every account can pay all that is taken from it and take all that it
receives, then every transfer succeeds, and what the accounts hold in the end is the same for every
order of commits (`covered_fulfilled`). Whichever of the transfers have been committed, the sender of
another one holds no less than what all the others leave him (`Covered.pays`). -/

namespace Passbook

open Transfer

variable {db : Database} {capacity : Nat} {orders : List (Runner × Command)} {past : Past}
  {system : System}

/-- The orders proceed: each has a task; as long as one is not finished somebody can go on, and there
is an end to it. Who is finished has been answered, and when all are, nothing is locked and all
connections are free. -/
structure Proceeds (orders : List (Runner × Command)) (past : Past) (system : System) : Prop where
  tasks : system.tasks.length = orders.length
  goesOn : (∃ task ∈ system.tasks, task.stage.isFinished = false) →
    ∃ move : Move, move.isOnward = true ∧ (system.step (.move move)).isSome = true
  moves : past.allMoves ≤ 19 * orders.length
  told : ∀ index task, system.tasks[index]? = some task → task.stage.isFinished = true →
    (system.reply? index).isSome = true
  atRest : (∀ task ∈ system.tasks, task.stage.isFinished = true) →
    system.db.locks = [] ∧ system.inUse = []

section

variable (hrest : db.AtRest) (hcapacity : 0 < capacity)
  (hadmits : ∀ order ∈ orders, (UnitOfWork.transfer order.1 order.2).Admits)
  (hrun : Run (.start db capacity) past system)
  (hsmooth : ∀ before event, (before, event) ∈ past → event.IsSmooth)
  (hworks : past.works = orderAll orders)
include hrest hcapacity hadmits hrun hsmooth hworks

theorem proceeds : Proceeds orders past system := by
  have hflow := hrun.flows_smoothly hrest hadmits hsmooth (hworks ▸ List.prefix_rfl)
  have ho := hrun.orderly (System.orderly_start hrest capacity)
  have hcalls : past.calls = orders.length := by
    rw [← Past.length_works, hworks, orderAll, List.length_map]
  refine ⟨hflow.calls.trans hcalls, ?_, ?_, ?_, ?_⟩
  · rintro ⟨task, hmem, hf⟩
    obtain ⟨index, ht⟩ := List.mem_iff_getElem?.mp hmem
    exact hflow.goesOn ho hcapacity ht hf
  · rw [← hcalls]
    exact hflow.allMoves_le hrun
  · intro index task ht hf
    rw [System.reply?, ht]
    exact (hflow.climber index task ht).reply_of_isFinished hf
  · intro hall
    have hfree : system.inUse = [] := by
      refine List.eq_nil_iff_forall_not_mem.mpr fun connection hin => ?_
      obtain ⟨index, task, ht, hclaims⟩ := hflow.claimed connection hin
      rw [Task.claims, if_pos (hall task (List.mem_of_getElem? ht))] at hclaims
      cases hclaims
    refine ⟨List.eq_nil_iff_forall_not_mem.mpr fun lock hlock => ?_, hfree⟩
    have hin := @System.Orderly.inUse_of_locks _ lock.2 ho lock.1 hlock
    rw [hfree] at hin
    cases hin

end

namespace System.Racing

variable {start : Books} {index : Nat} {reply : Reply}

/-- Those that succeed are those that have been committed, and whoever fails has found less than was
to be sent. -/
theorem replied (h : Racing start orders past system) (hreply : system.reply? index = some reply) :
    (∃ debit, reply = .entry debit ∧ index ∈ past.commits) ∨
      ∃ runner command earlier books, orders[index]? = some (runner, command) ∧
        index ∉ past.commits ∧ earlier <+: past.commits ∧
        Executes start (chosen (orders.map (·.2)) earlier) books ∧
        books.balance command.source < command.amount ∧
        reply = .failed (.ledger
          (.insufficientBalance command.amount (books.balance command.source))) := by
  obtain ⟨task, ht, hreply⟩ := Option.bind_eq_some_iff.mp hreply
  obtain ⟨runner, command, horder, -, hracer⟩ := h.entrant index task ht
  cases hracer with
  | waiting _ hwait => cases hwait.reply.symm.trans hreply
  | asking _ hask => cases hask.reply.symm.trans hreply
  | won _ hmem hown => exact .inl ⟨_, Option.some.inj (hreply.symm.trans hown), hmem⟩
  | lost _ hnot hearlier hdone hshort hown =>
    exact .inr ⟨runner, command, _, _, horder, hnot, hearlier, hdone, hshort,
      Option.some.inj (hreply.symm.trans hown)⟩

theorem mem_commits_iff (h : Racing start orders past system) :
    index ∈ past.commits ↔ ∃ debit, system.reply? index = some (.entry debit) := by
  constructor
  · intro hmem
    have ht := List.getElem?_eq_getElem (h.committed index hmem)
    obtain ⟨runner, command, -, -, hracer⟩ := h.entrant index _ ht
    cases hracer with
    | waiting hnot | asking hnot => exact absurd hmem hnot
    | lost _ hnot => exact absurd hmem hnot
    | won _ _ hreply => exact ⟨_, by rw [System.reply?, ht]; exact hreply⟩
  · rintro ⟨debit, hreply⟩
    rcases h.replied hreply with ⟨_, -, hmem⟩ | ⟨_, _, _, _, -, -, -, -, -, hfailed⟩
    · exact hmem
    · cases hfailed

end System.Racing

/-! ## Transfers that are covered -/

/-- There is room for what the commands move, and every account can pay all that they take from it. -/
structure Covered (start : Books) (commands : List Command) : Prop extends Roomy start commands where
  paid : ∀ command ∈ commands, outgoing commands command.source ≤ start.balance command.source

/-- All orders have succeeded. They have been executed one after another, with two entries each, and
what every account holds does not depend on the order in which that was done. -/
structure Fulfilled (start : Books) (orders : List (Runner × Command)) (system : System) : Prop where
  replies : ∀ index < orders.length, ∃ debit, system.reply? index = some (.entry debit)
  executes : ∃ done, done.Perm (orders.map (·.2)) ∧ Executes start done system.db.books
  exist : ∀ id, (system.db.books.account? id).isSome = (start.account? id).isSome
  balances : ∀ id, system.db.books.balance id =
    start.balance id - outgoing (orders.map (·.2)) id + incoming (orders.map (·.2)) id
  entries : ∃ added, system.db.books.entries = start.entries ++ added ∧
    added.length = 2 * orders.length

/-- A covered transfer never finds less than it is to send, whichever of the others have been
executed. -/
theorem Covered.pays {start books : Books} {commands done : List Command} {command : Command}
    (h : Covered start commands) (hdone : Executes start done books)
    (hsub : (command :: done).Subperm commands) :
    command.amount ≤ books.balance command.source := by
  have hmem : command ∈ commands := hsub.subset List.mem_cons_self
  have hpositive : ∀ other ∈ done, 0 < other.amount := fun other hother =>
    h.positive other (hsub.subset (List.mem_cons_of_mem _ hother))
  have hout : command.amount + outgoing done command.source ≤ outgoing commands command.source := by
    simpa [outgoing, Command.takes] using outgoing_le hsub h.positive command.source
  have hin : 0 ≤ incoming done command.source := by
    simpa [incoming] using incoming_le (List.nil_subperm (l := done)) hpositive command.source
  have hpaid := h.paid command hmem
  rw [hdone.balance]
  omega

theorem System.Racing.fulfilled {start : Books} (h : System.Racing start orders past system)
    (hall : ∀ index < orders.length, ∃ debit, system.reply? index = some (.entry debit)) :
    Fulfilled start orders system := by
  have hperm : (chosen (orders.map (·.2)) past.commits).Perm (orders.map (·.2)) := by
    refine chosen_perm h.nodup ?_ ?_
    · intro index hmem
      rw [List.length_map]
      exact h.lt_length hmem
    · intro index hlt
      rw [List.length_map] at hlt
      exact h.mem_commits_iff.mpr (hall index hlt)
  have hlength := hperm.length_eq
  rw [List.length_map] at hlength
  refine ⟨hall, ⟨_, hperm, h.executes⟩, h.executes.exist, fun id => ?_, ?_⟩
  · rw [h.executes.balance]
    unfold outgoing incoming
    rw [(hperm.map _).sum_eq, (hperm.map _).sum_eq]
  · rw [← hlength]
    exact h.executes.entries

section

variable (hrest : db.AtRest) (hcapacity : 0 < capacity)
  (hadmits : ∀ order ∈ orders, (UnitOfWork.transfer order.1 order.2).Admits)
  (hrun : Run (.start db capacity) past system)
  (hsmooth : ∀ before event, (before, event) ∈ past → event.IsSmooth)
  (hworks : past.works = orderAll orders)
include hrest hcapacity hadmits hrun hsmooth hworks

/-- Covered transfers all succeed, in every interleaving of them, and what every account holds in the
end is what it had, less all that was sent from it and with all that it received. A bound on lock waits
which the database refuses is left out: with it no transfer would begin. -/
theorem covered_fulfilled (hcovered : Covered db.books (orders.map (·.2))) :
    Proceeds orders past system ∧
      (∀ index reply, system.reply? index = some reply → ∃ debit, reply = .entry debit) ∧
      ((∀ task ∈ system.tasks, task.stage.isFinished = true) →
        Fulfilled db.books orders system) := by
  have hproceeds := proceeds hrest hcapacity hadmits hrun hsmooth hworks
  have hracing := hrun.racing hrest hadmits hsmooth hcovered.toRoomy (hworks ▸ List.prefix_rfl)
  have hreplies : ∀ index reply, system.reply? index = some reply → ∃ debit, reply = .entry debit := by
    intro index reply hreply
    rcases hracing.replied hreply with ⟨debit, rfl, -⟩ |
      ⟨runner, command, earlier, books, horder, hnot, hearlier, hdone, hshort, -⟩
    · exact ⟨debit, rfl⟩
    · have hpays := hcovered.pays hdone (hracing.subperm horder hnot hearlier)
      omega
  refine ⟨hproceeds, hreplies, fun hall => hracing.fulfilled fun index hlt => ?_⟩
  have ht := List.getElem?_eq_getElem (hproceeds.tasks ▸ hlt)
  obtain ⟨reply, hreply⟩ := Option.isSome_iff_exists.mp
    (hproceeds.told index _ ht (hall _ (List.mem_of_getElem? ht)))
  obtain ⟨debit, rfl⟩ := hreplies index reply hreply
  exact ⟨debit, hreply⟩

end

/-- Two clients, each with an account of a pair, who send money to each other. -/
def mutualOrders : List (Runner × Command) :=
  [(.default, ⟨.nil, 1000000001, 1000000002, 30⟩), (.default, ⟨.nil, 1000000002, 1000000001, 5⟩)]

/-- The second one waits for the first one, and both come to their end. -/
def mutualEvents : List Event :=
  (orderAll mutualOrders).map (.spawn [] none) ++
    [.move (.connect 0), .move (.connect 1), .move (.send 0), .move (.send 1), .move (.send 0),
      .move (.send 1)] ++
    List.replicate 6 (.move (.send 0)) ++ .move (.wake 1) :: List.replicate 6 (.move (.send 1))

/-- Both succeed, and the accounts hold what they would hold if the second one had come first. -/
theorem covered_fulfilled_mutual : ∃ past system, Run (.start pairLedger 2) past system ∧
    past.works = orderAll mutualOrders ∧ Covered pairLedger.books (mutualOrders.map (·.2)) ∧
    Fulfilled pairLedger.books mutualOrders system ∧
    system.db.books.accounts.map (·.balance) = [25, 35] := by
  have htrace : (System.start pairLedger 2).traces mutualEvents (fun _ system =>
      system.tasks.all (·.stage.isFinished) ∧
        system.db.books.accounts.map (·.balance) = [25, 35]) = true := rfl
  obtain ⟨past, system, htrace, hend⟩ := System.exists_of_traces htrace
  obtain ⟨hfinished, hbalances⟩ := of_decide_eq_true hend
  have hrun := System.run_of_trace? htrace
  have hsmooth := System.forall_of_trace? (P := Event.IsSmooth) htrace <| by
    simp [mutualEvents, mutualOrders, orderAll, Event.IsSmooth, Move.isOnward]
  have hworks : past.works = orderAll mutualOrders := by
    rw [Past.works_eq, System.events_of_trace? htrace]
    rfl
  have hadmits : ∀ order ∈ mutualOrders, (UnitOfWork.transfer order.1 order.2).Admits := by
    simp only [mutualOrders, List.forall_mem_cons]
    exact ⟨Runner.admits_default, Runner.admits_default, List.forall_mem_nil _⟩
  have hcovered : Covered pairLedger.books (mutualOrders.map (·.2)) :=
    ⟨⟨by decide, by decide, by decide, by decide, by decide⟩, by decide⟩
  have hfulfilled := covered_fulfilled ⟨rfl, rfl⟩ (by decide) hadmits hrun hsmooth hworks
    hcovered
  exact ⟨past, system, hrun, hworks, hcovered,
    hfulfilled.2.2 (List.all_eq_true.mp hfinished), hbalances⟩

end Passbook
