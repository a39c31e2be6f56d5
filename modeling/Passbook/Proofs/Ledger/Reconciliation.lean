import Passbook.Proofs.Ledger.Dealt
import Passbook.Proofs.Uuid

/-! # Reconciliation

However the dealings of any number of callers are interleaved, and whatever fails on the way, the
committed books reconcile with those at the start (`reconciles`): every balance is the one at the start
with the entries that were committed since, these come in pairs, one for each transfer, and the total
is the same. -/

namespace Passbook

open Entry

variable {db : Database} {capacity : Nat} {past : Past} {system : System}

/-- The amounts of the entries of one side. -/
def Entry.sumOf (side : Side) (entries : List Entry) : Int :=
  ((entries.filter (·.side == side)).map (·.amount)).sum

theorem Entry.sum_signed (entries : List Entry) :
    (entries.map signed).sum = sumOf .credit entries - sumOf .debit entries := by
  induction entries with
  | nil => rfl
  | cons entry entries ih =>
    cases hside : entry.side <;> simp [sumOf, signed, Side.signed, hside] at ih ⊢ <;> omega

/-- Books reconcile with those at the start and the entries that were committed since. -/
structure Books.Reconciles (start : Books) (entries : List Entry) (books : Books) : Prop where
  committed : books.entries = start.entries ++ entries
  kept : ∀ id, (start.account? id).isSome = true → (books.account? id).isSome = true
  within : ∀ entry ∈ entries, (books.account? entry.account).isSome = true
  balances : ∀ id, books.balance id = start.balance id +
    sumOf .credit (about id entries) - sumOf .debit (about id entries)
  paired : ∀ entry ∈ entries, ∃ posting : Posting,
    entries.filter (·.transfer == entry.transfer) = [posting.debit, posting.credit]
  total : books.total = start.total
  leads : ∀ id, Leads (start.balance id) (about id entries) (books.balance id)

theorem Books.Posted.reconcile {start books : Books} {postings : List Posting}
    (h : start.Posted postings books) (hdistinct : (postings.map (·.transfer)).Nodup) :
    start.Reconciles (postings.flatMap Posting.entries) books where
  committed := h.entries
  kept := h.kept
  within := h.within
  balances := by
    intro id
    rw [(h.leads id).eq_add_sum, sum_signed]
    omega
  paired := by
    intro entry hmem
    obtain ⟨posting, hposting, hentry⟩ := List.mem_flatMap.mp hmem
    have htransfer : entry.transfer = posting.transfer := by
      rcases List.mem_pair.mp hentry with rfl | rfl
      · exact posting.transfers.1
      · exact posting.transfers.2
    rw [htransfer]
    exact ⟨posting, Posting.filter_entries hposting hdistinct⟩
  total := h.total
  leads := h.leads

/-- Whenever callers only deal with the ledger, however they are interleaved and whatever fails, the
committed books reconcile with those at the start, if the identifiers drawn since are told apart. -/
theorem reconciles (hrest : db.AtRest) (hrun : Run (.start db capacity) past system)
    (hfaith : past.Faithful) (hdeals : ∀ before event, (before, event) ∈ past → event.Deals)
    (hdrawn : Set.InjOn db.draws.uuid (Set.Ico db.serial system.db.serial)) :
    ∃ entries, db.books.Reconciles entries system.db.books := by
  obtain ⟨postings, owner, hdealt⟩ := hrun.dealt hrest hfaith hdeals
  refine ⟨_, hdealt.posted.reconcile ?_⟩
  have hserials : ∀ serial ∈ postings.map (·.draw.serial),
      serial ∈ Set.Ico db.serial system.db.serial := by
    intro serial hmem
    obtain ⟨posting, hposting, rfl⟩ := List.mem_map.mp hmem
    exact (hdealt.spent posting hposting).1
  have htransfers : postings.map (·.transfer) =
      (postings.map (·.draw.serial)).map db.draws.uuid := by
    rw [List.map_map]
    exact List.map_congr_left fun posting hposting =>
      congrArg Draw.uuid (hdealt.spent posting hposting).2.1.symm
  rw [htransfers]
  exact hdealt.distinct.map_on fun serial hmem other hother =>
    hdrawn (hserials serial hmem) (hserials other hother)

/-- A ledger of two accounts, and a user who has none. -/
def openLedger : Database := { pairLedger with users := [.nil, .ofNat 1] }

/-- A transfer that loses its connection when it writes its first entry, and a transaction that its
caller keeps open. In that one a transfer succeeds, another one cannot be paid, and an account is
created; it is committed all the same. -/
def mixedEvents : List Event :=
  [.spawn [] none (Operation.work .default .pooled []
      (.transfer .nil (.number 1000000001) (.number 1000000002) 30)),
    .spawn [] none (Scenario.opening none), .arm (.arm .insertEntry .disconnect 1),
    .move (.connect 0), .move (.connect 1), .move (.send 1), .move (.send 0), .move (.send 0),
    .move (.send 0), .move (.send 0), .move (.send 0), .move (.send 0),
    .spawn [1] none (Operation.work .default .callers []
      (.transfer .nil (.number 1000000002) (.number 1000000001) 5)),
    .move (.send 2), .move (.send 2), .move (.send 2), .move (.send 2), .move (.send 2),
    .move (.send 2),
    .spawn [1] none (Operation.work .default .callers []
      (.transfer .nil (.number 1000000002) (.number 1000000001) 500)),
    .move (.send 3), .move (.send 3),
    .spawn [1] none (Operation.work .default .callers []
      (.createAccount (.number 1000000003) (.ofNat 1) .savings)),
    .move (.send 4), .spawn [1] none (Scenario.closing .commit), .move (.send 5)]

theorem deals_mixedEvents : ∀ event ∈ mixedEvents, event.Deals := by
  intro event hmem
  cases event with
  | spawn connections deadline work =>
    simp only [mixedEvents, List.mem_cons, List.not_mem_nil, reduceCtorEq, or_false, false_or,
      Event.spawn.injEq] at hmem
    rcases hmem with ⟨rfl, -, rfl⟩ | ⟨rfl, -, rfl⟩ | ⟨rfl, -, rfl⟩ | ⟨rfl, -, rfl⟩ | ⟨rfl, -, rfl⟩ |
      ⟨rfl, -, rfl⟩
    · exact Operation.dealing_work .default [] rfl
    · exact .opens none
    · exact .within 1 (Operation.deals_work .default [] rfl)
    · exact .within 1 (Operation.deals_work .default [] rfl)
    · exact .within 1 (Operation.deals_work .default [] rfl)
    · exact .closes 1 rfl
  | _ => exact trivial

/-- The transfer of 5 is in the books, and the one of 30 is not. -/
theorem reconciles_mixed : ∃ past system entries,
    Run (.start openLedger 2) past system ∧
      openLedger.books.Reconciles entries system.db.books ∧
      system.db.books.accounts.map (·.balance) = [55, 5, 0] ∧ entries.map (·.amount) = [5, 5] := by
  have htrace : (System.start openLedger 2).traces mixedEvents (fun past system =>
      past.isPlain ∧ system.db.serial ≤ 100 ∧
        system.db.books.accounts.map (·.balance) = [55, 5, 0] ∧
        system.db.books.entries.map (·.amount) = [5, 5]) = true := rfl
  obtain ⟨past, system, htrace, hend⟩ := System.exists_of_traces htrace
  obtain ⟨hplain, hserial, hbalances, hamounts⟩ := of_decide_eq_true hend
  have hrun := System.run_of_trace? htrace
  have hdeals : ∀ before event, (before, event) ∈ past → event.Deals := by
    intro before event hmem
    refine deals_mixedEvents event ?_
    rw [← System.events_of_trace? htrace]
    exact List.mem_map_of_mem hmem
  have hfew : system.db.serial ≤ 2 ^ 122 := Nat.le_trans hserial (by decide)
  have hdrawn : Set.InjOn openLedger.draws.uuid (Set.Ico openLedger.serial system.db.serial) :=
    fun _ hfirst _ hsecond => Uuid.drawn_injective (Nat.lt_of_lt_of_le hfirst.2 hfew)
      (Nat.lt_of_lt_of_le hsecond.2 hfew)
  obtain ⟨entries, hreconciles⟩ :=
    reconciles ⟨rfl, rfl⟩ hrun (.of_isPlain hplain) hdeals hdrawn
  refine ⟨past, system, entries, hrun, hreconciles, hbalances, ?_⟩
  rw [hreconciles.committed] at hamounts
  exact hamounts

end Passbook
