import Passbook.Proofs.Footing.Upholds
import Passbook.Store

/-! # Store calls in a transaction

What a store call on the caller's connection makes of the caller's draft. Reading leaves what was
written as it was (`Draft.Reads`), and a row that is read with its lock stays as it was read for as
long as the transaction is open (`Reads.account?_view`). A call that writes lays its row over the
changes. Whatever fails in the database breaks the transaction. -/

namespace Passbook

namespace Draft

variable {draft draft' draft'' : Draft} {id : Int}

/-- The transaction has gone on: it owns what it owned, and the committed rows of that are as they
were. -/
structure Grows (draft draft' : Draft) : Prop where
  drawn : ∀ draw ∈ draft.drawn, draw ∈ draft'.drawn
  owns : ∀ id, draft.Owns id → draft'.Owns id
  rows : ∀ id, draft.Owns id → draft'.books.account? id = draft.books.account? id

namespace Grows

theorem refl (draft : Draft) : draft.Grows draft :=
  ⟨fun _ => id, fun _ => id, fun _ _ => rfl⟩

theorem trans (h : draft.Grows draft') (h' : draft'.Grows draft'') : draft.Grows draft'' where
  drawn draw hmem := h'.drawn draw (h.drawn draw hmem)
  owns id howns := h'.owns id (h.owns id howns)
  rows id howns := (h'.rows id (h.owns id howns)).trans (h.rows id howns)

end Grows

theorem Sways.grows (h : draft.Sways draft') : draft.Grows draft' where
  drawn draw hmem := by rwa [h.drawn]
  owns _ howns := h.owns.mpr howns
  rows _ howns := h.account?_books howns

theorem grows_after (draft : Draft) (statement : Statement) (changes : Books) :
    draft.Grows (draft.after statement changes) :=
  ⟨fun _ => id, fun _ howns => owns_after statement changes howns, fun _ _ => rfl⟩

/-- It has gone on without writing anything. -/
structure Reads (draft draft' : Draft) : Prop extends Grows draft draft' where
  changes : draft'.changes = draft.changes

namespace Reads

theorem refl (draft : Draft) : draft.Reads draft := ⟨.refl draft, rfl⟩

theorem trans (h : draft.Reads draft') (h' : draft'.Reads draft'') : draft.Reads draft'' :=
  ⟨h.toGrows.trans h'.toGrows, h'.changes.trans h.changes⟩

/-- An owned row is seen as before. -/
theorem account?_view (h : draft.Reads draft') (howns : draft.Owns id) :
    draft'.view.account? id = draft.view.account? id := by
  rw [Draft.account?_view, Draft.account?_view, h.changes, h.rows id howns]

end Reads

theorem reads_drew (draft : Draft) (draw : Draw) : draft.Reads (draft.drew draw) :=
  ⟨⟨fun _ => List.mem_cons_of_mem draw, fun _ => id, fun _ _ => rfl⟩, rfl⟩

theorem Sways.reads_after (h : draft.Sways draft') (statement : Statement) :
    draft.Reads (draft'.after statement .empty) where
  toGrows := h.grows.trans (grows_after ..)
  changes := (Books.overlay_empty _).trans h.changes

/-- What is written comes over what was written before. -/
theorem Sways.changes_after (h : draft.Sways draft') (statement : Statement) (written : Books) :
    (draft'.after statement written).changes = draft.changes.overlay written :=
  congrArg (Books.overlay · written) h.changes

end Draft

/-- The row is that of the entry that was to be written. -/
structure Entry.Says (row : Entry) (entry : NewEntry) : Prop where
  transfer : row.transfer = entry.transfer
  account : row.account = entry.account
  amount : row.amount = entry.amount.value
  balanceAfter : row.balanceAfter = entry.balanceAfter.value
  side : row.side = entry.side

open Draft

namespace Store

variable {rules : Rules} {published : List Books} {draft : Draft}
  {Fails : Footing → Failure → Prop} {id : Int} {owner : Uuid} {kind : AccountKind}
  (hquits : rules.quits published)
  (hbroken : ∀ error, Fails ⟨published, .broken⟩ (.storage error))

section

include hquits hbroken

/-- Reading an account. With its lock the row is owned from then on. -/
theorem upholds_account {lookup : AccountLookup} {Post : Footing → Account → Prop}
    (hmissing : ∀ draft', draft.Reads draft' →
      Fails ⟨published, .drafting draft'⟩ (.accountNotFound lookup.id))
    (hok : ∀ draft' row, draft.Reads draft' → draft'.view.account? lookup.id = some row →
      (lookup.locking = true → draft'.Owns lookup.id) → Post ⟨published, .drafting draft'⟩ row) :
    (account .callers lookup).Upholds rules Post Fails ⟨published, .drafting draft⟩ := by
  refine Call.upholds_bind (Call.upholds_query rfl hquits hbroken ?_)
  intro draft' hsways around effect he
  cases he
  have hreads := hsways.reads_after (.selectAccount lookup)
  have hview : (draft'.after (.selectAccount lookup) .empty).view = draft'.view :=
    congrArg draft'.books.overlay (Books.overlay_empty draft'.changes)
  cases hrow : draft'.view.account? lookup.id with
  | none => exact hmissing _ hreads
  | some row =>
    refine Call.upholds_pure (hok _ row hreads (by rw [hview, hrow]) fun hlocking => ?_)
    rw [Draft.account?_view] at hrow
    cases hchanged : draft'.changes.account? lookup.id with
    | some => exact owns_after _ _ (.inr (by rw [hchanged]; rfl))
    | none =>
      rw [hchanged, Option.none_or] at hrow
      left
      right
      simp [Statement.lockedAccount?, hlocking, hrow, Books.id_of_account? hrow]

/-- Setting the balance of an account that the transaction owns. -/
theorem upholds_setBalance {balance : Balance} {row : Account} {Post : Footing → Account → Prop}
    (hrow : draft.view.account? id = some row) (howns : draft.Owns id) (hnonneg : 0 ≤ balance.value)
    (hok : ∀ draft' now, draft.Grows draft' →
      draft'.changes = draft.changes.overlay
        ⟨[{ row with balance := balance.value, updatedAt := now }], []⟩ →
      Post ⟨published, .drafting draft'⟩ { row with balance := balance.value, updatedAt := now }) :
    (setBalance .callers id balance).Upholds rules Post Fails ⟨published, .drafting draft⟩ := by
  refine Call.upholds_bind (Call.upholds_query rfl hquits hbroken ?_)
  intro draft' hsways around effect he
  rw [← hsways.account?_view howns] at hrow
  simp only [Statement.effect, hrow, if_neg (Int.not_lt.mpr hnonneg)] at he
  cases he
  exact Call.upholds_pure
    (hok _ around.now (hsways.grows.trans (grows_after ..)) (hsways.changes_after _ _))

/-- Writing an entry. -/
theorem upholds_record {entry : NewEntry} {Post : Footing → Entry → Prop}
    (hok : ∀ draft' row, draft.Grows draft' → draft'.changes = draft.changes.overlay ⟨[], [row]⟩ →
      row.Says entry → Post ⟨published, .drafting draft'⟩ row) :
    (record .callers entry).Upholds rules Post Fails ⟨published, .drafting draft⟩ := by
  refine Call.upholds_bind (Call.upholds_query rfl hquits hbroken ?_)
  intro draft' hsways around effect he
  simp only [Statement.effect, Statement.newEntry] at he
  repeat' split at he
  all_goals cases he
  exact Call.upholds_pure (hok _ _ (hsways.grows.trans (grows_after ..)) (hsways.changes_after _ _)
    ⟨rfl, rfl, rfl, rfl, rfl⟩)

end

/-- Creating an account. -/
theorem upholds_createAccount {Post : Footing → Account → Prop} (hquits : rules.quits published)
    (hfailed : ∀ failure, Fails ⟨published, .broken⟩ failure)
    (hok : ∀ draft' row, draft.Grows draft' → draft'.changes = draft.changes.overlay ⟨[row], []⟩ →
      (draft'.books.overlay draft.changes).account? row.id = none → row.balance = 0 →
      Post ⟨published, .drafting draft'⟩ row) :
    (createAccount .callers id owner kind).Upholds rules Post Fails
      ⟨published, .drafting draft⟩ := by
  refine Work.upholds_query rfl hquits (fun error => hfailed _) ?_
  intro draft' hsways around effect he
  obtain ⟨row, hrow, rfl⟩ := Statement.of_insertAccount he
  obtain ⟨hid, hzero, hfree⟩ := Statement.newAccount_ok hrow
  refine hok _ row (hsways.grows.trans (grows_after ..)) (hsways.changes_after _ _) ?_ hzero
  rw [hid, ← hsways.changes]
  exact hfree

end Store

end Passbook
