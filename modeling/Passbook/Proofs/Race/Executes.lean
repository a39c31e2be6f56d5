import Mathlib.Algebra.Order.BigOperators.Group.List
import Mathlib.Data.List.Perm.Subperm
import Passbook.Proofs.Ledger.Postings
import Passbook.Proofs.Race.Fares

/-! # Transfers one after another

The books after some transfers, one after another (`Transfer.Executes`). What an account holds then
depends on which transfers these are, and not on their order (`Executes.balance`). If every receiver
can take all that it is to receive from a list of commands, then whichever of them have been executed,
each of the others is ready (`Roomy.ready`). -/

namespace Passbook

namespace Command

/-- The two accounts that the command is about. -/
def accounts (command : Command) : List Int := [command.source, command.target]

/-- What the command takes from an account. -/
def takes (id : Int) (command : Command) : Int := if command.source = id then command.amount else 0

/-- What the command brings to an account. -/
def brings (id : Int) (command : Command) : Int := if command.target = id then command.amount else 0

end Command

namespace Transfer

/-- All that the commands take from an account. -/
def outgoing (commands : List Command) (id : Int) : Int := (commands.map (·.takes id)).sum

/-- All that the commands bring to an account. -/
def incoming (commands : List Command) (id : Int) : Int := (commands.map (·.brings id)).sum

variable {start books after : Books} {commands others : List Command} {command : Command}
  {source target amount id : Int} {debit credit : Entry}

/-! ## What an account holds -/

theorem Applied.exist (h : Applied source target amount books after debit credit) (id : Int) :
    (after.account? id).isSome = (books.account? id).isSome := by
  obtain ⟨payer, _, hpayer, hpayer', -⟩ := h.paid
  obtain ⟨payee, _, hpayee, hpayee', -⟩ := h.received
  by_cases hs : id = source
  · rw [hs, hpayer, hpayer']
    rfl
  · by_cases ht : id = target
    · rw [ht, hpayee, hpayee']
      rfl
    · rw [h.others id hs ht]

theorem Applied.balance (h : Applied command.source command.target command.amount books after debit
    credit) (id : Int) :
    after.balance id = books.balance id - command.takes id + command.brings id := by
  have hdiffer := h.differ
  unfold Command.takes Command.brings
  by_cases hs : command.source = id
  · obtain ⟨row, _, hrow, hrow', -⟩ := h.paid
    rw [hs] at hrow hrow' hdiffer
    rw [Books.balance_of_account? hrow, Books.balance_of_account? hrow', if_pos hs,
      if_neg (Ne.symm hdiffer)]
    dsimp only
    omega
  · by_cases ht : command.target = id
    · obtain ⟨row, _, hrow, hrow', -⟩ := h.received
      rw [ht] at hrow hrow'
      rw [Books.balance_of_account? hrow, Books.balance_of_account? hrow', if_neg hs, if_pos ht]
      dsimp only
      omega
    · rw [Books.balance_congr (h.others id (Ne.symm hs) (Ne.symm ht)), if_neg hs, if_neg ht]
      omega

/-- No transfer leaves an account with less than nothing. -/
theorem Applied.nonneg (h : Applied source target amount books after debit credit)
    (hbefore : 0 ≤ books.balance id) : 0 ≤ after.balance id := by
  by_cases hs : id = source
  · obtain ⟨row, _, -, hrow, hbalance⟩ := h.paid
    rw [hs, Books.balance_of_account? hrow]
    dsimp only
    rw [← hbalance]
    exact h.range.1.1
  · by_cases ht : id = target
    · obtain ⟨row, _, -, hrow, hbalance⟩ := h.received
      rw [ht, Books.balance_of_account? hrow]
      dsimp only
      rw [← hbalance]
      exact h.range.2.1
    · rw [Books.balance_congr (h.others id hs ht)]
      exact hbefore

/-- The commands have been executed on the books, one after another. -/
inductive Executes (start : Books) : List Command → Books → Prop
  | nil : Executes start [] start
  | concat {commands : List Command} {command : Command} {books after : Books}
      {debit credit : Entry} : Executes start commands books →
      Applied command.source command.target command.amount books after debit credit →
      Executes start (commands ++ [command]) after

namespace Executes

theorem exist (h : Executes start commands books) (id : Int) :
    (books.account? id).isSome = (start.account? id).isSome := by
  induction h with
  | nil => rfl
  | concat _ happlied ih => rw [happlied.exist, ih]

/-- What an account holds after the transfers. -/
theorem balance (h : Executes start commands books) (id : Int) :
    books.balance id = start.balance id - outgoing commands id + incoming commands id := by
  induction h with
  | nil => simp [outgoing, incoming]
  | concat _ happlied ih =>
    rw [happlied.balance, ih]
    simp only [outgoing, incoming, List.map_append, List.map_singleton, List.sum_append,
      List.sum_singleton]
    omega

theorem nonneg (h : Executes start commands books) (hstart : 0 ≤ start.balance id) :
    0 ≤ books.balance id := by
  induction h with
  | nil => exact hstart
  | concat _ happlied ih => exact happlied.nonneg ih

/-- Each transfer has added two entries. -/
theorem entries (h : Executes start commands books) :
    ∃ added, books.entries = start.entries ++ added ∧ added.length = 2 * commands.length := by
  induction h with
  | nil => exact ⟨[], by simp⟩
  | @concat _ _ _ _ debit credit _ happlied ih =>
    obtain ⟨added, hentries, hlength⟩ := ih
    refine ⟨added ++ [debit, credit], ?_, ?_⟩
    · rw [happlied.entries, hentries, List.append_assoc]
    · simp only [List.length_append, List.length_cons, List.length_nil, hlength]
      omega

end Executes

/-! ## Some of the commands -/

/-- Every command makes sense and is about accounts that are there, and these can take all that they
are to receive. -/
structure Roomy (start : Books) (commands : List Command) : Prop where
  differ : ∀ command ∈ commands, command.source ≠ command.target
  positive : ∀ command ∈ commands, 0 < command.amount
  exist : ∀ command ∈ commands, ∀ id ∈ command.accounts, (start.account? id).isSome = true
  nonneg : ∀ command ∈ commands, ∀ id ∈ command.accounts, 0 ≤ start.balance id
  room : ∀ command ∈ commands, ∀ id ∈ command.accounts,
    start.balance id + incoming commands id ≤ maxMoney

theorem sum_le_of_subperm {f : Command → Int} (h : commands.Subperm others)
    (hpos : ∀ command ∈ others, 0 ≤ f command) :
    (commands.map f).sum ≤ (others.map f).sum := by
  obtain ⟨own, hperm, hsub⟩ := h
  rw [← (hperm.map f).sum_eq]
  refine (hsub.map f).sum_le_sum ?_
  intro value hvalue
  obtain ⟨command, hmem, rfl⟩ := List.mem_map.mp hvalue
  exact hpos command hmem

theorem outgoing_le (h : commands.Subperm others) (hpos : ∀ command ∈ others, 0 < command.amount)
    (id : Int) : outgoing commands id ≤ outgoing others id := by
  refine sum_le_of_subperm h fun command hmem => ?_
  have := hpos command hmem
  unfold Command.takes
  split <;> omega

theorem incoming_le (h : commands.Subperm others) (hpos : ∀ command ∈ others, 0 < command.amount)
    (id : Int) : incoming commands id ≤ incoming others id := by
  refine sum_le_of_subperm h fun command hmem => ?_
  have := hpos command hmem
  unfold Command.brings
  split <;> omega

/-- Whichever of the commands have been executed, each of the others is ready. -/
theorem Roomy.ready (h : Roomy start commands) {done : List Command}
    (hdone : Executes start done books) (hsub : (command :: done).Subperm commands) :
    Ready command books := by
  have hmem : command ∈ commands := hsub.subset List.mem_cons_self
  have hpositive := h.positive command hmem
  have hrow : ∀ id ∈ command.accounts, ∃ row, books.account? id = some row ∧
      row.balance = books.balance id ∧ 0 ≤ row.balance := by
    intro id hid
    have hexist := h.exist command hmem id hid
    rw [← hdone.exist] at hexist
    obtain ⟨row, hrow⟩ := Option.isSome_iff_exists.mp hexist
    have hbalance := Books.balance_of_account? hrow
    refine ⟨row, hrow, hbalance.symm, ?_⟩
    rw [← hbalance]
    exact hdone.nonneg (h.nonneg command hmem id hid)
  have hroom : ∀ id ∈ command.accounts, books.balance id + command.brings id ≤ maxMoney := by
    intro id hid
    have hall := h.room command hmem id hid
    have hin : command.brings id + incoming done id ≤ incoming commands id := by
      simpa [incoming] using incoming_le hsub h.positive id
    have hout : 0 ≤ outgoing done id := by
      simpa [outgoing] using outgoing_le (List.nil_subperm (l := done))
        (fun other hother => h.positive other (hsub.subset (List.mem_cons_of_mem _ hother))) id
    rw [hdone.balance]
    omega
  have htarget : command.target ∈ command.accounts := List.mem_cons_of_mem _ List.mem_cons_self
  refine ⟨h.differ command hmem, hpositive, ?_, ?_⟩
  · obtain ⟨row, hrow, hbalance, hnonneg⟩ := hrow command.source List.mem_cons_self
    have hle := hroom command.source List.mem_cons_self
    rw [Command.brings, if_neg (Ne.symm (h.differ command hmem))] at hle
    exact ⟨row, hrow, hnonneg, by omega⟩
  · obtain ⟨row, hrow, hbalance, hnonneg⟩ := hrow command.target htarget
    have hle := hroom command.target htarget
    rw [Command.brings, if_pos rfl] at hle
    exact ⟨row, hrow, hnonneg, by omega⟩

/-- The commands at the given places of a list. -/
def chosen (commands : List Command) (indices : List Nat) : List Command :=
  indices.filterMap (commands[·]?)

theorem chosen_range (commands : List Command) :
    chosen commands (List.range commands.length) = commands := by
  unfold chosen
  induction commands with
  | nil => rfl
  | cons command commands ih =>
    rw [List.length_cons, List.range_succ_eq_map, List.filterMap_cons, List.filterMap_map]
    simp only [List.getElem?_cons_zero, List.cons.injEq, true_and]
    exact ih

variable {indices : List Nat}

theorem chosen_subperm (h : indices.Nodup) (hlt : ∀ index ∈ indices, index < commands.length) :
    (chosen commands indices).Subperm commands := by
  obtain ⟨own, hperm, hsub⟩ :=
    List.subperm_of_subset h fun index hmem => List.mem_range.mpr (hlt index hmem)
  refine ⟨chosen commands own, hperm.filterMap _, ?_⟩
  nth_rewrite 2 [← chosen_range commands]
  exact hsub.filterMap _

theorem length_chosen (hlt : ∀ index ∈ indices, index < commands.length) :
    (chosen commands indices).length = indices.length := by
  unfold chosen
  induction indices with
  | nil => rfl
  | cons index indices ih =>
    have hown := List.getElem?_eq_getElem (hlt index List.mem_cons_self)
    rw [List.filterMap_cons, hown, List.length_cons, List.length_cons,
      ih fun other hmem => hlt other (List.mem_cons_of_mem _ hmem)]

/-- Those at all places are all of them. -/
theorem chosen_perm (h : indices.Nodup) (hlt : ∀ index ∈ indices, index < commands.length)
    (hall : ∀ index < commands.length, index ∈ indices) :
    (chosen commands indices).Perm commands := by
  refine (chosen_subperm h hlt).perm_of_length_le ?_
  rw [length_chosen hlt, ← List.length_range (n := commands.length)]
  exact (List.subperm_of_subset List.nodup_range fun index hmem =>
    hall index (List.mem_range.mp hmem)).length_le

end Transfer

end Passbook
