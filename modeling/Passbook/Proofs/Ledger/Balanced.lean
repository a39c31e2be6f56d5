import Passbook.Proofs.Ledger.Postings
import Passbook.Proofs.Transfer.Moved

/-! # Transactions that balance

A transaction balances if it has written postings and added empty accounts and nothing else
(`Draft.Balanced`). It goes on to do so when others change what it does not own, when it adds an account
(`Balanced.created`) and when it does a whole transfer (`Transfer.Moved.balanced`). -/

namespace Passbook

open Entry

namespace Draft

variable {draft draft' : Draft} {postings : List Posting}

/-- What the transaction has written balances, and the identifiers of its transfers were drawn in
it. -/
structure Balanced (draft : Draft) (postings : List Posting) : Prop where
  balances : draft.books.Balances draft.changes postings
  nodup : (postings.map (·.draw.serial)).Nodup
  drawn : ∀ posting ∈ postings, posting.draw ∈ draft.drawn

namespace Balanced

theorem opened (books : Books) : (Draft.opened books).Balanced [] :=
  ⟨.empty books, List.nodup_nil, List.forall_mem_nil _⟩

/-- Others may have changed what the transaction does not own. -/
theorem of_grows (h : draft.Balanced postings) (hgrows : draft.Grows draft') :
    draft'.books.Balances draft.changes postings :=
  h.balances.of_rows draft.keyed fun id hid => hgrows.rows id (.inr hid)

theorem of_reads (h : draft.Balanced postings) (hreads : draft.Reads draft') :
    draft'.Balanced postings where
  balances := by
    rw [hreads.changes]
    exact h.of_grows hreads.toGrows
  nodup := h.nodup
  drawn posting hmem := hreads.drawn _ (h.drawn posting hmem)

theorem created {row : Account} (h : draft.Balanced postings) (hgrows : draft.Grows draft')
    (hchanges : draft'.changes = draft.changes.overlay ⟨[row], []⟩)
    (hfree : (draft'.books.overlay draft.changes).account? row.id = none)
    (hzero : row.balance = 0) : draft'.Balanced postings where
  balances := by
    have hrow : ∀ id, draft'.changes.account? id =
        if row.id = id then some row else draft.changes.account? id := by
      intro id
      rw [hchanges, Books.account?_overlay_single]
    have hempty := Books.Balances.created hfree hzero
    rw [← List.append_nil postings]
    refine (h.of_grows hgrows).append ?_ ?_ nofun fun id => ?_
    · rw [hchanges]
      rfl
    · intro id hid
      rw [hrow]
      split
      · rfl
      · exact hid
    · have hview : draft'.view.account? id =
          ((draft'.books.overlay draft.changes).overlay ⟨[row], []⟩).account? id := by
        rw [Draft.account?_view, hrow, Books.account?_overlay_single,
          draft.keyed.account?_overlay]
        split <;> rfl
      change Leads _ _ (draft'.view.balance id)
      rw [Books.balance_congr hview]
      exact hempty.leads id
  nodup := h.nodup
  drawn posting hmem := hgrows.drawn _ (h.drawn posting hmem)

end Balanced

theorem Sways.reads (h : draft.Sways draft') : draft.Reads draft' := ⟨h.grows, h.changes⟩

end Draft

namespace Transfer

variable {source target amount : Int} {before after : Books} {draft draft' : Draft}
  {debit credit : Entry} {postings : List Posting} {draw : Draw}

/-- The entries of a transfer lead from the balances before it to those after it. -/
theorem Applied.leads (h : Applied source target amount before after debit credit) (id : Int) :
    Leads (before.balance id) (about id [debit, credit]) (after.balance id) := by
  have hdebit : debit.signed = -amount := by rw [signed, h.sides.1, h.amounts.1]; rfl
  have hcredit : credit.signed = amount := by rw [signed, h.sides.2, h.amounts.2]; rfl
  by_cases hs : id = source
  · obtain ⟨row, now, hbefore, hafter, hbalance⟩ := h.paid
    have habout : about id [debit, credit] = [debit] := by
      simp [about, h.accounts, hs, Ne.symm h.differ]
    rw [habout, hs, Books.balance_of_account? hbefore, Books.balance_of_account? hafter]
    change Leads _ _ (row.balance - amount)
    rw [← hbalance]
    exact .single (by rw [hdebit, hbalance]; rfl)
  · by_cases ht : id = target
    · obtain ⟨row, now, hbefore, hafter, hbalance⟩ := h.received
      have habout : about id [debit, credit] = [credit] := by
        simp [about, h.accounts, ht, h.differ]
      rw [habout, ht, Books.balance_of_account? hbefore, Books.balance_of_account? hafter]
      change Leads _ _ (row.balance + amount)
      rw [← hbalance]
      exact .single (by rw [hcredit, hbalance])
    · have habout : about id [debit, credit] = [] := by
        simp [about, h.accounts, Ne.symm hs, Ne.symm ht]
      rw [habout, Books.balance_congr (h.others id hs ht)]
      exact .nil _

/-- The posting of a transfer. -/
def Applied.posting (h : Applied source target amount before after debit credit)
    (hdrawn : debit.transfer = draw.uuid) : Posting where
  draw := draw
  debit := debit
  credit := credit
  sides := h.sides
  transfers := ⟨hdrawn, h.shared.trans hdrawn⟩
  positive := by rw [h.amounts.1]; exact h.positive
  amounts := h.amounts.2.trans h.amounts.1.symm
  accounts := by rw [h.accounts.1, h.accounts.2]; exact h.differ

/-- A transfer adds its posting to what the transaction has written. -/
theorem Moved.balanced (hmoved : Moved source target amount draft draft' debit credit)
    (h : draft.Balanced postings) (hfresh : draw.serial ∉ draft.drawn.map Draw.serial)
    (hmem : draw ∈ draft'.drawn) (hdrawn : debit.transfer = draw.uuid) :
    draft'.Balanced (postings ++ [hmoved.applied.posting hdrawn]) where
  balances := by
    have happlied := hmoved.applied
    have hentries : draft'.changes.entries = draft.changes.entries ++ [debit, credit] := by
      have hall : draft'.books.entries ++ draft'.changes.entries =
          draft'.books.entries ++ (draft.changes.entries ++ [debit, credit]) := by
        rw [← List.append_assoc]
        exact happlied.entries
      exact List.append_cancel_left hall
    refine (h.of_grows hmoved.toGrows).append hentries ?_ ?_ happlied.leads
    · exact fun id hid => (hmoved.changed id).mpr (.inr (.inr hid))
    · intro entry hentry
      rw [hmoved.changed]
      rcases List.mem_pair.mp hentry with rfl | rfl
      · exact .inl happlied.accounts.1
      · exact .inr (.inl happlied.accounts.2)
  nodup := by
    rw [List.map_append, List.nodup_append]
    refine ⟨h.nodup, List.nodup_singleton _, ?_⟩
    intro old hold new hnew hsame
    obtain ⟨posting, hposting, rfl⟩ := List.mem_map.mp hold
    rw [List.mem_singleton.mp hnew] at hsame
    refine hfresh ?_
    change posting.draw.serial = draw.serial at hsame
    rw [← hsame]
    exact List.mem_map_of_mem (h.drawn posting hposting)
  drawn := by
    intro posting hposting
    rcases List.mem_append.mp hposting with hold | hnew
    · exact hmoved.drawn _ (h.drawn posting hold)
    · obtain rfl := List.mem_singleton.mp hnew
      exact hmem

end Transfer

end Passbook
