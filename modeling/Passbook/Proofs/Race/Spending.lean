import Passbook.Proofs.Race.Covered

/-! # No double spending

In a smooth run of transfers, if those that take money from one account all send the same amount, and
the account receives nothing, then it is sent exactly as often as the balance allows, and everybody
else is told what is left in the end (`spending_exact`). The first who finds too little finds it when
the balance has been spent, and after that nobody can succeed (`Spending.spent`, `Spending.le_div`). -/

namespace Passbook

open Transfer

variable {db : Database} {capacity : Nat} {orders : List (Runner × Command)} {past : Past}
  {system : System}

/-- How many of the commands take money from the account. -/
def debits (commands : List Command) (id : Int) : Nat := commands.countP (·.source == id)

/-- There is room for what the commands move, and those that take money from the sender take the same
amount each. None brings him money. -/
structure Spending (start : Books) (sender amount : Int) (commands : List Command) : Prop
    extends Roomy start commands where
  amount_pos : 0 < amount
  balance_nonneg : 0 ≤ start.balance sender
  sends : ∀ command ∈ commands, command.source = sender → command.amount = amount
  receives : ∀ command ∈ commands, command.target ≠ sender

namespace Spending

variable {start books : Books} {sender amount : Int} {commands done : List Command}

theorem outgoing_eq (h : ∀ command ∈ done, command.source = sender → command.amount = amount) :
    outgoing done sender = amount * debits done sender := by
  induction done with
  | nil => simp [outgoing, debits]
  | cons command done ih =>
    obtain ⟨hown, hrest⟩ := List.forall_mem_cons.mp h
    have htail := ih hrest
    unfold outgoing debits at htail ⊢
    rw [List.map_cons, List.sum_cons, htail, Command.takes]
    by_cases hsource : command.source = sender
    · rw [if_pos hsource, hown hsource, List.countP_cons_of_pos (by simpa using hsource),
        Int.natCast_succ, Int.mul_add, Int.mul_one, Int.add_comm]
    · rw [if_neg hsource, List.countP_cons_of_neg (by simpa using hsource), Int.zero_add]

theorem incoming_eq (h : ∀ command ∈ done, command.target ≠ sender) : incoming done sender = 0 := by
  refine List.sum_eq_zero fun value hvalue => ?_
  obtain ⟨command, hmem, rfl⟩ := List.mem_map.mp hvalue
  exact if_neg (h command hmem)

/-- What the sender has left after some of the transfers. -/
theorem left (h : Spending start sender amount commands) (hdone : Executes start done books)
    (hsub : done.Subperm commands) :
    books.balance sender = start.balance sender - amount * debits done sender ∧
      0 ≤ books.balance sender := by
  refine ⟨?_, hdone.nonneg h.balance_nonneg⟩
  rw [hdone.balance, outgoing_eq fun command hmem => h.sends command (hsub.subset hmem),
    incoming_eq fun command hmem => h.receives command (hsub.subset hmem), Int.add_zero]

/-- Who finds less than was to be sent finds what is left when the balance has been spent. -/
theorem spent (h : Spending start sender amount commands) (hdone : Executes start done books)
    (hsub : done.Subperm commands) (hshort : books.balance sender < amount) :
    start.balance sender / amount = debits done sender ∧
      start.balance sender % amount = books.balance sender := by
  obtain ⟨hleft, hnonneg⟩ := h.left hdone hsub
  refine (Int.ediv_emod_unique h.amount_pos).mpr ⟨?_, hnonneg, hshort⟩
  omega

/-- The balance is not spent more often than it lasts. -/
theorem le_div (h : Spending start sender amount commands) (hdone : Executes start done books)
    (hsub : done.Subperm commands) : (debits done sender : Int) ≤ start.balance sender / amount := by
  obtain ⟨hleft, hnonneg⟩ := h.left hdone hsub
  refine Int.le_ediv_of_mul_le h.amount_pos ?_
  rw [Int.mul_comm]
  omega

end Spending

/-- Whether the command at the place takes money from the account. -/
def takesAt (commands : List Command) (id : Int) (index : Nat) : Bool :=
  (commands[index]?).any (·.source == id)

theorem takesAt_iff {commands : List Command} {id : Int} {index : Nat} :
    takesAt commands id index = true ↔
      ∃ command, commands[index]? = some command ∧ command.source = id := by
  rw [takesAt, Option.any_eq_true]
  simp only [beq_iff_eq]

theorem debits_chosen (commands : List Command) (indices : List Nat) (id : Int) :
    debits (chosen commands indices) id = (indices.filter (takesAt commands id)).length := by
  rw [debits, chosen, List.countP_filterMap, List.countP_eq_length_filter]
  congr 2
  funext index
  unfold takesAt
  cases commands[index]? <;> rfl

/-- These tasks have succeeded, and no others. The books are those that their orders have made, one
after another: whoever has failed has written nothing. -/
structure Winners (start : Books) (orders : List (Runner × Command)) (system : System)
    (winners : List Nat) : Prop where
  nodup : winners.Nodup
  succeeded : ∀ index, index ∈ winners ↔ ∃ debit, system.reply? index = some (.entry debit)
  executes : Executes start (chosen (orders.map (·.2)) winners) system.db.books

/-- The sender has sent the amount as often as the balance allows, and has the rest. Whoever has not
been able to send it has been told that rest. -/
structure Spent (start : Books) (orders : List (Runner × Command)) (sender amount : Int)
    (system : System) (winners : List Nat) : Prop where
  count : ((winners.filter (takesAt (orders.map (·.2)) sender)).length : Int) =
    min (debits (orders.map (·.2)) sender : Int) (start.balance sender / amount)
  balance : system.db.books.balance sender = start.balance sender - amount *
    min (debits (orders.map (·.2)) sender : Int) (start.balance sender / amount)
  refused : ∀ index, takesAt (orders.map (·.2)) sender index = true → index ∉ winners →
    system.reply? index = some (.failed (.ledger
      (.insufficientBalance amount (start.balance sender % amount))))

namespace System.Racing

variable {start : Books} {sender amount : Int}

theorem winners (h : Racing start orders past system) :
    Winners start orders system past.commits :=
  ⟨h.nodup, fun _ => h.mem_commits_iff, h.executes⟩

/-- Whoever fails to send the amount is told what is left in the end, and it has been spent by then as
often as the balance allows. -/
theorem spender_replied (h : Racing start orders past system)
    (hspending : Spending start sender amount (orders.map (·.2))) {index : Nat} {reply : Reply}
    (hspends : takesAt (orders.map (·.2)) sender index = true)
    (hreply : system.reply? index = some reply) :
    (∃ debit, reply = .entry debit) ∨ reply = .failed (.ledger
      (.insufficientBalance amount (start.balance sender % amount))) ∧
        start.balance sender / amount =
          debits (chosen (orders.map (·.2)) past.commits) sender := by
  obtain ⟨command, hcommand, hsource⟩ := takesAt_iff.mp hspends
  rcases h.replied hreply with ⟨debit, rfl, -⟩ |
    ⟨runner, own, earlier, books, horder, hnot, hearlier, hdone, hshort, rfl⟩
  · exact .inl ⟨debit, rfl⟩
  · rw [List.getElem?_map, horder] at hcommand
    cases hcommand
    have hall := h.subperm horder hnot hearlier
    have hamount := hspending.sends own (hall.subset List.mem_cons_self) hsource
    rw [hsource, hamount] at hshort ⊢
    have hfirst := (List.sublist_cons_self ..).subperm.trans hall
    obtain ⟨hquotient, hleft⟩ := hspending.spent hdone hfirst hshort
    have hlasts := hspending.le_div h.executes h.subperm_commits
    have hle : debits (chosen (orders.map (·.2)) earlier) sender ≤
        debits (chosen (orders.map (·.2)) past.commits) sender :=
      (hearlier.sublist.filterMap _).countP_le
    refine .inr ⟨by rw [hleft], ?_⟩
    omega

/-- When all who send the amount have been answered, it has been spent as often as they are, or as
often as the balance allows. -/
theorem debits_commits (h : Racing start orders past system)
    (hspending : Spending start sender amount (orders.map (·.2)))
    (hanswered : ∀ index, takesAt (orders.map (·.2)) sender index = true →
      (system.reply? index).isSome = true) :
    (debits (chosen (orders.map (·.2)) past.commits) sender : Int) =
      min (debits (orders.map (·.2)) sender : Int) (start.balance sender / amount) := by
  have hmost : debits (chosen (orders.map (·.2)) past.commits) sender ≤
      debits (orders.map (·.2)) sender := h.subperm_commits.countP_le _
  have hlasts := hspending.le_div h.executes h.subperm_commits
  by_cases hwon : ∀ index, takesAt (orders.map (·.2)) sender index = true → index ∈ past.commits
  · -- the places of all debits are among those of the commits
    have hplaces : ((List.range (orders.map (·.2)).length).filter
        (takesAt (orders.map (·.2)) sender)).Subperm
          (past.commits.filter (takesAt (orders.map (·.2)) sender)) := by
      refine List.subperm_of_subset (List.nodup_range.filter _) fun index hmem => ?_
      have htakes := (List.mem_filter.mp hmem).2
      exact List.mem_filter.mpr ⟨hwon index htakes, htakes⟩
    have hleast := hplaces.length_le
    rw [← debits_chosen, ← debits_chosen, chosen_range] at hleast
    omega
  · obtain ⟨index, hspends, hnot⟩ : ∃ index, takesAt (orders.map (·.2)) sender index = true ∧
        index ∉ past.commits := by
      simpa using hwon
    obtain ⟨reply, hreply⟩ := Option.isSome_iff_exists.mp (hanswered index hspends)
    rcases h.spender_replied hspending hspends hreply with ⟨debit, rfl⟩ | ⟨-, hquotient⟩
    · exact absurd (h.mem_commits_iff.mpr ⟨debit, hreply⟩) hnot
    · omega

theorem spent (h : Racing start orders past system)
    (hspending : Spending start sender amount (orders.map (·.2)))
    (hanswered : ∀ index, takesAt (orders.map (·.2)) sender index = true →
      (system.reply? index).isSome = true) :
    Spent start orders sender amount system past.commits := by
  have hcount := h.debits_commits hspending hanswered
  refine ⟨by rw [← debits_chosen, hcount], ?_, fun index hspends hnot => ?_⟩
  · rw [(hspending.left h.executes h.subperm_commits).1, hcount]
  · obtain ⟨reply, hreply⟩ := Option.isSome_iff_exists.mp (hanswered index hspends)
    rcases h.spender_replied hspending hspends hreply with ⟨debit, rfl⟩ | ⟨rfl, -⟩
    · exact absurd (h.mem_commits_iff.mpr ⟨debit, hreply⟩) hnot
    · exact hreply

end System.Racing

section

variable (hrest : db.AtRest) (hcapacity : 0 < capacity)
  (hadmits : ∀ order ∈ orders, (UnitOfWork.transfer order.1 order.2).Admits)
  (hrun : Run (.start db capacity) past system)
  (hsmooth : ∀ before event, (before, event) ∈ past → event.IsSmooth)
  (hworks : past.works = orderAll orders)
include hrest hcapacity hadmits hrun hsmooth hworks

/-- An amount that is sent again and again from one account is sent as often as the balance allows, in
every interleaving of the transfers. Whoever fails to send it is told what is left in the end, and has
written nothing. A bound on lock waits which the database refuses is left out. -/
theorem spending_exact {sender amount : Int}
    (hspending : Spending db.books sender amount (orders.map (·.2))) :
    Proceeds orders past system ∧
      (∀ index reply, takesAt (orders.map (·.2)) sender index = true →
        system.reply? index = some reply →
        (∃ debit, reply = .entry debit) ∨ reply = .failed (.ledger
          (.insufficientBalance amount (db.books.balance sender % amount)))) ∧
      ∃ winners, Winners db.books orders system winners ∧
        ((∀ task ∈ system.tasks, task.stage.isFinished = true) →
          Spent db.books orders sender amount system winners) := by
  have hproceeds := proceeds hrest hcapacity hadmits hrun hsmooth hworks
  have hracing := hrun.racing hrest hadmits hsmooth hspending.toRoomy (hworks ▸ List.prefix_rfl)
  refine ⟨hproceeds, fun index reply hspends hreply =>
    (hracing.spender_replied hspending hspends hreply).imp_right And.left,
    past.commits, hracing.winners, fun hall => hracing.spent hspending fun index hspends => ?_⟩
  obtain ⟨_, hcommand, -⟩ := takesAt_iff.mp hspends
  have hlt := (List.getElem?_eq_some_iff.mp hcommand).1
  rw [List.length_map, ← hproceeds.tasks] at hlt
  have ht := List.getElem?_eq_getElem hlt
  exact hproceeds.told index _ ht (hall _ (List.mem_of_getElem? ht))

end

/-- Three clients who each send 20 from an account that holds 50. -/
def greedyOrders : List (Runner × Command) :=
  List.replicate 3 (.default, ⟨.nil, 1000000001, 1000000002, 20⟩)

/-- The last one comes first, since the other two wait for him, and the second one is too late. -/
def greedyEvents : List Event :=
  (orderAll greedyOrders).map (.spawn [] none) ++
    [.move (.connect 0), .move (.connect 1), .move (.connect 2), .move (.send 0), .move (.send 1),
      .move (.send 2), .move (.send 2), .move (.send 0), .move (.send 1)] ++
    List.replicate 6 (.move (.send 2)) ++ .move (.wake 0) :: List.replicate 6 (.move (.send 0)) ++
    .move (.wake 1) :: List.replicate 2 (.move (.send 1))

/-- Two of the three succeed, and the third one is told that 10 are left. -/
theorem spending_exact_greedy : ∃ past system winners, Run (.start pairLedger 3) past system ∧
    past.works = orderAll greedyOrders ∧
    Spending pairLedger.books 1000000001 20 (greedyOrders.map (·.2)) ∧
    Winners pairLedger.books greedyOrders system winners ∧
    Spent pairLedger.books greedyOrders 1000000001 20 system winners ∧
    system.db.books.accounts.map (·.balance) = [10, 50] := by
  have htrace : (System.start pairLedger 3).traces greedyEvents (fun _ system =>
      system.tasks.all (·.stage.isFinished) ∧
        system.db.books.accounts.map (·.balance) = [10, 50]) = true := rfl
  obtain ⟨past, system, htrace, hend⟩ := System.exists_of_traces htrace
  obtain ⟨hfinished, hbalances⟩ := of_decide_eq_true hend
  have hrun := System.run_of_trace? htrace
  have hsmooth := System.forall_of_trace? (P := Event.IsSmooth) htrace <| by
    simp [greedyEvents, greedyOrders, orderAll, Event.IsSmooth, Move.isOnward]
  have hadmits : ∀ order ∈ greedyOrders, (UnitOfWork.transfer order.1 order.2).Admits := by
    intro order hmem
    rw [List.eq_of_mem_replicate hmem]
    exact Runner.admits_default
  have hworks : past.works = orderAll greedyOrders := by
    rw [Past.works_eq, System.events_of_trace? htrace]
    rfl
  have hspending : Spending pairLedger.books 1000000001 20 (greedyOrders.map (·.2)) :=
    ⟨⟨by decide, by decide, by decide, by decide, by decide⟩, by decide, by decide, by decide,
      by decide⟩
  obtain ⟨-, -, winners, hwinners, hspent⟩ := spending_exact ⟨rfl, rfl⟩ (by decide) hadmits hrun
    hsmooth hworks hspending
  exact ⟨past, system, winners, hrun, hworks, hspending, hwinners,
    hspent (List.all_eq_true.mp hfinished), hbalances⟩

end Passbook
