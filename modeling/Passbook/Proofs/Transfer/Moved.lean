import Passbook.Proofs.Store.Drafts
import Passbook.Proofs.UnitOfWork.Bodies

/-! # What a transfer does in a transaction

A transfer that succeeds has moved its amount between the two accounts and recorded it on both, in the
books as its transaction sees them (`Applied`). It is applied to what the two rows hold when it locks
them; whatever others do to the committed books until it has ended, it remains applied to them
(`Applied.of_sways`). A transfer that fails has written nothing, or it has broken its transaction. -/

namespace Passbook

open Draft

namespace Transfer

/-- The amount has moved from the source account to the target account, and both have an entry about
it that says what they hold now. -/
structure Applied (source target amount : Int) (before after : Books) (debit credit : Entry) :
    Prop where
  differ : source ≠ target
  positive : 0 < amount
  paid : ∃ row now, before.account? source = some row ∧
    after.account? source = some { row with balance := row.balance - amount, updatedAt := now } ∧
    debit.balanceAfter = row.balance - amount
  received : ∃ row now, before.account? target = some row ∧
    after.account? target = some { row with balance := row.balance + amount, updatedAt := now } ∧
    credit.balanceAfter = row.balance + amount
  others : ∀ id, id ≠ source → id ≠ target → after.account? id = before.account? id
  entries : after.entries = before.entries ++ [debit, credit]
  sides : debit.side = .debit ∧ credit.side = .credit
  accounts : debit.account = source ∧ credit.account = target
  amounts : debit.amount = amount ∧ credit.amount = amount
  shared : credit.transfer = debit.transfer
  range : (0 ≤ debit.balanceAfter ∧ debit.balanceAfter ≤ maxMoney) ∧
    0 ≤ credit.balanceAfter ∧ credit.balanceAfter ≤ maxMoney

variable {source target amount : Int} {before after : Books} {draft draft' : Draft}
  {debit credit : Entry}

/-- A transfer that is applied to the committed books, with both rows in its hands, remains so. -/
theorem Applied.of_sways (h : Applied source target amount draft.books draft.view debit credit)
    (hsource : draft.Owns source) (htarget : draft.Owns target) (hsways : draft.Sways draft') :
    Applied source target amount draft'.books draft'.view debit credit where
  differ := h.differ
  positive := h.positive
  paid := by
    rw [hsways.account?_books hsource, hsways.account?_view hsource]
    exact h.paid
  received := by
    rw [hsways.account?_books htarget, hsways.account?_view htarget]
    exact h.received
  others := by
    intro id hs ht
    by_cases howns : draft.Owns id
    · rw [hsways.account?_books howns, hsways.account?_view howns]
      exact h.others id hs ht
    · have hnone : draft.changes.account? id = none := by
        simpa using fun hchanged => howns (.inr hchanged)
      rw [Draft.account?_view, hsways.changes, hnone, Option.none_or]
  entries := by
    have hwritten : draft.changes.entries = [debit, credit] :=
      List.append_cancel_left h.entries
    change draft'.books.entries ++ draft'.changes.entries = _
    rw [hsways.changes, hwritten]
  sides := h.sides
  accounts := h.accounts
  amounts := h.amounts
  shared := h.shared
  range := h.range

/-- The transaction has gone on by a transfer: it is applied to what the transaction saw, and it has
changed the two rows and no others. -/
structure Moved (source target amount : Int) (draft draft' : Draft) (debit credit : Entry) : Prop
    extends Grows draft draft' where
  applied : Applied source target amount (draft'.books.overlay draft.changes) draft'.view debit credit
  changed : ∀ id, (draft'.changes.account? id).isSome = true ↔
    id = source ∨ id = target ∨ (draft.changes.account? id).isSome = true

theorem Moved.of_reads {draft₁ : Draft} (hreads : draft.Reads draft₁)
    (h : Moved source target amount draft₁ draft' debit credit) :
    Moved source target amount draft draft' debit credit where
  toGrows := hreads.toGrows.trans h.toGrows
  applied := by
    rw [← hreads.changes]
    exact h.applied
  changed := by
    rw [← hreads.changes]
    exact h.changed

/-! ## Parts of a transfer -/

variable {rules : Rules} {published : List Books} {Post : Footing → Entry → Prop}
  {Fails : Footing → Failure → Prop} {sender receiver : Account} {sum : Amount}

theorem mapError_eq_ok {ε ε' α : Type} {f : ε → ε'} {result : Except ε α} {value : α}
    (h : result.mapError f = .ok value) : result = .ok value := by
  cases result <;> cases h
  rfl

theorem bind_eq_ok {ε α β : Type} {result : Except ε α} {f : α → Except ε β} {last : β}
    (h : (result >>= f) = .ok last) : ∃ value, result = .ok value ∧ f value = .ok last := by
  cases result with
  | error => cases h
  | ok value => exact ⟨value, rfl, h⟩

theorem validate_ok {command : Command} (h : command.validate = .ok sum) :
    command.source ≠ command.target ∧ sum.value = command.amount := by
  unfold Command.validate at h
  split at h
  · cases h
  · exact ⟨‹_›, Amount.ofInt_eq_ok_iff.mp (mapError_eq_ok h)⟩

theorem eq_of_lockOrder {low high : Int} (h : lockOrder source target = (low, high)) :
    low = source ∧ high = target ∨ low = target ∧ high = source := by
  unfold lockOrder at h
  split at h <;> cases h
  · exact .inl ⟨rfl, rfl⟩
  · exact .inr ⟨rfl, rfl⟩

theorem balancesAfter_ok {debited credited : Balance}
    (h : balancesAfter sender receiver sum = .ok (debited, credited)) :
    debited.value = sender.balance - sum.value ∧ 0 ≤ debited.value ∧
      credited.value = receiver.balance + sum.value ∧ 0 ≤ credited.value := by
  obtain ⟨paying, hread, h⟩ := bind_eq_ok h
  obtain ⟨-, hpaying⟩ := Balance.ofInt_eq_ok_iff.mp (mapError_eq_ok hread)
  split at h
  · cases h
  obtain ⟨debited', hsubtracted, h⟩ := bind_eq_ok h
  obtain ⟨hdebited, hdebited'⟩ := Balance.ofInt_eq_ok_iff.mp (mapError_eq_ok hsubtracted)
  obtain ⟨paid, hread', h⟩ := bind_eq_ok h
  obtain ⟨-, hpaid⟩ := Balance.ofInt_eq_ok_iff.mp (mapError_eq_ok hread')
  obtain ⟨credited', hadded, h⟩ := bind_eq_ok h
  obtain ⟨hcredited, hcredited'⟩ := Balance.ofInt_eq_ok_iff.mp (mapError_eq_ok hadded)
  cases h
  omega

section

variable (hquits : rules.quits published)
  (hbroken : ∀ error, Fails ⟨published, .broken⟩ (.storage error))
include hquits hbroken

/-- One side of a transfer. -/
theorem upholds_post {side : Side} {shared : Uuid} {id : Int} {balance : Balance} {row : Account}
    (hrow : draft.view.account? id = some row) (howns : draft.Owns id) (hnonneg : 0 ≤ balance.value)
    (hok : ∀ draft' now entry, draft.Grows draft' →
      draft'.changes = (draft.changes.overlay
        ⟨[{ row with balance := balance.value, updatedAt := now }], []⟩).overlay ⟨[], [entry]⟩ →
      entry.Says ⟨shared, id, sum, balance, side⟩ → Post ⟨published, .drafting draft'⟩ entry) :
    (post side shared id balance sum).Upholds rules Post Fails ⟨published, .drafting draft⟩ := by
  refine Call.upholds_bind (Store.upholds_setBalance hquits hbroken hrow howns hnonneg ?_)
  intro draft' now hgrows hchanges
  have hentry : NewEntry.ofAccount side shared
      { row with balance := balance.value, updatedAt := now } sum =
        .ok ⟨shared, id, sum, balance, side⟩ := by
    rw [NewEntry.ofAccount, NewEntry.ofBalance, Balance.ofInt_eq_ok_iff.mpr ⟨hnonneg, rfl⟩,
      Books.id_of_account? hrow]
    rfl
  rw [hentry]
  refine Call.upholds_bind (Store.upholds_record hquits hbroken ?_)
  intro draft'' entry hgrows' hchanges' hsays
  rw [hchanges] at hchanges'
  exact hok draft'' now entry (hgrows.trans hgrows') hchanges' hsays

/-- Both sides of a transfer between two rows that the transaction owns. -/
theorem upholds_postBoth {shared : Uuid} (hne : sender.id ≠ receiver.id)
    (hsender : draft.view.account? sender.id = some sender) (hpays : draft.Owns sender.id)
    (hreceiver : draft.view.account? receiver.id = some receiver) (hpaid : draft.Owns receiver.id)
    (hfailed : ∀ failure, failure.isOutcomeUnknown = false →
      Fails ⟨published, .drafting draft⟩ failure)
    (hok : ∀ draft' debit credit,
      Moved sender.id receiver.id sum.value draft draft' debit credit → debit.transfer = shared →
      Post ⟨published, .drafting draft'⟩ debit) :
    (postBoth shared sender receiver sum).Upholds rules Post Fails ⟨published, .drafting draft⟩ := by
  refine Call.upholds_bind (Call.upholds_ofExcept ?_ fun failure he =>
    hfailed failure (balancesAfter_error he))
  rintro ⟨debited, credited⟩ hbalances
  obtain ⟨hdebited, hdebited', hcredited, hcredited'⟩ := balancesAfter_ok hbalances
  refine Call.upholds_bind (upholds_post hquits hbroken hsender hpays hdebited' ?_)
  intro draft₁ now₁ debit hgrows₁ hchanges₁ hdebit
  have hreceiver₁ : draft₁.view.account? receiver.id = some receiver := by
    rw [Draft.account?_view, hchanges₁, hgrows₁.rows _ hpaid, Books.account?_overlay_entries,
      Books.account?_overlay_single, if_neg hne, ← Draft.account?_view, hreceiver]
  refine Call.upholds_bind (upholds_post hquits hbroken hreceiver₁ (hgrows₁.owns _ hpaid)
    hcredited' ?_)
  intro draft₂ now₂ credit hgrows₂ hchanges₂ hcredit
  refine Call.upholds_pure (hok draft₂ debit credit ?_ hdebit.transfer)
  have hgrows := hgrows₁.trans hgrows₂
  -- what the transaction has written, row by row
  have hchanged : ∀ id, draft₂.changes.account? id =
      if receiver.id = id then some { receiver with balance := credited.value, updatedAt := now₂ }
      else if sender.id = id then some { sender with balance := debited.value, updatedAt := now₁ }
      else draft.changes.account? id := by
    intro id
    rw [hchanges₂, hchanges₁, Books.account?_overlay_entries, Books.account?_overlay_single,
      Books.account?_overlay_entries, Books.account?_overlay_single]
  have hentries : draft₂.changes.entries = draft.changes.entries ++ [debit, credit] := by
    rw [hchanges₂, hchanges₁]
    simp [Books.overlay]
  have hbefore : ∀ id, (draft₂.books.overlay draft.changes).account? id =
      (draft.changes.account? id).or (draft₂.books.account? id) :=
    draft.keyed.account?_overlay draft₂.books
  refine { toGrows := hgrows, applied := ?_, changed := ?_ }
  · refine ⟨hne, sum.value_pos, ⟨sender, now₁, ?_, ?_, ?_⟩, ⟨receiver, now₂, ?_, ?_, ?_⟩, ?_, ?_,
      ⟨hdebit.side, hcredit.side⟩, ⟨hdebit.account, hcredit.account⟩,
      ⟨hdebit.amount, hcredit.amount⟩, hcredit.transfer.trans hdebit.transfer.symm, ?_⟩
    · rw [hbefore, hgrows.rows _ hpays, ← Draft.account?_view, hsender]
    · rw [Draft.account?_view, hchanged, if_neg (Ne.symm hne), if_pos rfl, ← hdebited]
      rfl
    · rw [hdebit.balanceAfter, hdebited]
    · rw [hbefore, hgrows.rows _ hpaid, ← Draft.account?_view, hreceiver]
    · rw [Draft.account?_view, hchanged, if_pos rfl, ← hcredited]
      rfl
    · rw [hcredit.balanceAfter, hcredited]
    · intro id hs ht
      rw [Draft.account?_view, hchanged, if_neg (Ne.symm ht), if_neg (Ne.symm hs), hbefore]
    · change draft₂.books.entries ++ draft₂.changes.entries = _
      rw [hentries, ← List.append_assoc]
      rfl
    · rw [hdebit.balanceAfter, hcredit.balanceAfter]
      exact ⟨⟨hdebited', debited.value_le⟩, hcredited', credited.value_le⟩
  · intro id
    rw [hchanged]
    by_cases ht : receiver.id = id
    · rw [if_pos ht]
      exact iff_of_true rfl (.inr (.inl ht.symm))
    · by_cases hs : sender.id = id
      · rw [if_neg ht, if_pos hs]
        exact iff_of_true rfl (.inl hs.symm)
      · rw [if_neg ht, if_neg hs]
        simp [Ne.symm ht, Ne.symm hs]

/-- A whole transfer in an open transaction. -/
theorem upholds_perform (command : Command)
    (hfailed : ∀ draft' failure, draft.Reads draft' → failure.isOutcomeUnknown = false →
      Fails ⟨published, .drafting draft'⟩ failure)
    (hok : ∀ draft' drawn debit credit, drawn.serial ∉ draft.drawn.map Draw.serial →
      drawn ∈ draft'.drawn → debit.transfer = drawn.uuid →
      Moved command.source command.target command.amount draft draft' debit credit →
      Post ⟨published, .drafting draft'⟩ debit) :
    (perform command).Upholds rules Post Fails ⟨published, .drafting draft⟩ := by
  refine Call.upholds_bind (Call.upholds_ofExcept ?_ fun error _ =>
    hfailed draft (.ledger error) (.refl draft) rfl)
  intro sum hsum
  obtain ⟨hne, hamount⟩ := validate_ok hsum
  refine Call.upholds_bind (Call.upholds_draw ?_)
  intro drawn hfresh
  cases horder : lockOrder command.source command.target with | mk low high
  have hreads := reads_drew draft drawn
  -- the first row is locked, and read
  refine Call.upholds_bind (Store.upholds_account hquits hbroken ?_ ?_)
  · exact fun draft₁ hreads₁ => hfailed draft₁ _ (hreads.trans hreads₁) rfl
  intro draft₁ first hreads₁ hfirst howns₁
  replace howns₁ := howns₁ rfl
  have hdrawn := hreads₁.drawn drawn List.mem_cons_self
  replace hreads₁ := hreads.trans hreads₁
  -- the second row is locked, and read; the first one stays as it was read
  refine Call.upholds_bind (Store.upholds_account hquits hbroken ?_ ?_)
  · exact fun draft₂ hreads₂ => hfailed draft₂ _ (hreads₁.trans hreads₂) rfl
  intro draft₂ second hreads₂ hsecond howns₂
  replace howns₂ := howns₂ rfl
  rw [← hreads₂.account?_view howns₁] at hfirst
  replace howns₁ := hreads₂.owns _ howns₁
  replace hdrawn := hreads₂.drawn drawn hdrawn
  replace hreads₂ := hreads₁.trans hreads₂
  have hlow : first.id = low := Books.id_of_account? hfirst
  have hhigh : second.id = high := Books.id_of_account? hsecond
  rw [← hlow] at hfirst howns₁
  rw [← hhigh] at hsecond howns₂
  have hposts : ∀ sender receiver : Account, sender.id = command.source →
      receiver.id = command.target → draft₂.view.account? sender.id = some sender →
      draft₂.Owns sender.id → draft₂.view.account? receiver.id = some receiver →
      draft₂.Owns receiver.id → (postBoth drawn.uuid sender receiver sum).Upholds rules Post Fails
        ⟨published, .drafting draft₂⟩ := by
    intro sender receiver hsource htarget hsender hpays hreceiver hpaid
    refine upholds_postBoth hquits hbroken (by rwa [hsource, htarget]) hsender hpays hreceiver hpaid
      (fun failure => hfailed draft₂ failure hreads₂) ?_
    intro draft' debit credit hmoved hshared
    rw [hsource, htarget, hamount] at hmoved
    exact hok draft' drawn debit credit hfresh (hmoved.drawn drawn hdrawn) hshared
      (hmoved.of_reads hreads₂)
  unfold resolveRoles
  rcases eq_of_lockOrder horder with ⟨hsource, htarget⟩ | ⟨htarget, hsource⟩
  · rw [if_pos (hlow.trans hsource)]
    exact hposts first second (hlow.trans hsource) (hhigh.trans htarget) hfirst howns₁ hsecond howns₂
  · rw [if_neg (by rw [hlow, htarget]; exact Ne.symm hne)]
    exact hposts second first (hhigh.trans hsource) (hlow.trans htarget) hsecond howns₂ hfirst howns₁

end

end Transfer

end Passbook
