import Passbook.Proofs.Transfer.Moved
import Passbook.Proofs.Undisturbed.Pages

/-! # What a transfer does inside its transaction

Before a transfer writes anything it examines the two rows (`Transfer.examine`). What it comes to inside
a transaction is decided by that: it is turned down and has written nothing, or it writes both rows and
both entries (`inside_perform`). -/

namespace Passbook

/-- The row of an entry that is written as the next one, at the given time. -/
def NewEntry.row (entry : NewEntry) (draws : Draws) (serial : Nat) (now : Instant) : Entry where
  id := draws.uuid serial
  transfer := entry.transfer
  account := entry.account
  amount := entry.amount.value
  balanceAfter := entry.balanceAfter.value
  side := entry.side
  createdAt := now

namespace Page

variable {page : Page} {id : Int}

theorem ask_selectAccount (h : page.aborted = false) (lookup : AccountLookup) :
    page.ask (.selectAccount lookup) =
      (page.asking (.selectAccount lookup), .ok (page.view.account? lookup.id).toList) := by
  have he : Statement.effect page.around page.view (.selectAccount lookup) =
    .ok ⟨(page.view.account? lookup.id).toList, .empty⟩ := rfl
  rw [ask_of_ok h he, writing_empty]

theorem ask_updateAccount {row : Account} {balance : Balance} (h : page.aborted = false)
    (hrow : page.view.account? id = some row) (hnonneg : 0 ≤ balance.value) :
    page.ask (.updateAccount id balance) =
      (page.writing (.updateAccount id balance)
        ⟨[{ row with balance := balance.value, updatedAt := page.around.now }], []⟩,
        .ok [{ row with balance := balance.value, updatedAt := page.around.now }]) := by
  have he : Statement.effect page.around page.view (.updateAccount id balance) =
      .ok ⟨[{ row with balance := balance.value, updatedAt := page.around.now }],
        ⟨[{ row with balance := balance.value, updatedAt := page.around.now }], []⟩⟩ := by
    simp only [Statement.effect, hrow, if_neg (Int.not_lt.mpr hnonneg)]
  rw [ask_of_ok h he]

theorem ask_insertEntry {entry : NewEntry} (h : page.aborted = false)
    (hexist : (page.view.account? entry.account).isSome = true)
    (hnonneg : 0 ≤ entry.balanceAfter.value) :
    page.ask (.insertEntry entry) =
      (page.writing (.insertEntry entry) ⟨[], [entry.row page.around.draws page.around.serial page.around.now]⟩,
        .ok [entry.row page.around.draws page.around.serial page.around.now]) := by
  have hpresent : ¬ (page.view.account? entry.account).isNone = true := by
    rw [← Option.not_isSome, hexist]
    exact Bool.false_ne_true
  have he : Statement.effect page.around page.view (.insertEntry entry) =
      .ok ⟨[entry.row page.around.draws page.around.serial page.around.now],
        ⟨[], [entry.row page.around.draws page.around.serial page.around.now]⟩⟩ := by
    simp only [Statement.effect, Statement.newEntry, if_neg (Int.not_le.mpr entry.amount.value_pos),
      if_neg (Int.not_lt.mpr hnonneg), if_neg hpresent]
    rfl
  rw [ask_of_ok h he]

end Page

namespace Call

variable {α β : Type} {call : Call α} {f : α → Call β} {page page' : Page}

theorem inside_bind_ok {value : α} (h : call.run.inside page = (page', .ok value)) :
    (call >>= f).run.inside page = (f value).run.inside page' := by
  rw [run_bind, Work.inside_bind, h]

theorem inside_bind_error {failure : Failure} (h : call.run.inside page = (page', .error failure)) :
    (call >>= f).run.inside page = (page', .error failure) := by
  rw [run_bind, Work.inside_bind, h]
  rfl

theorem inside_draw (page : Page) : draw.run.inside page = (page.drawn, .ok page.draw) := rfl

theorem inside_ofExcept_ok {ε : Type} {failure : ε → Failure} {result : Except ε α} {value : α}
    (h : result = .ok value) :
    (ofExcept failure result >>= f).run.inside page = (f value).run.inside page := by
  rw [h]
  exact inside_bind_ok rfl

theorem inside_ofExcept_error {ε : Type} {failure : ε → Failure} {result : Except ε α} {error : ε}
    (h : result = .error error) :
    (ofExcept failure result >>= f).run.inside page = (page, .error (failure error)) := by
  rw [h]
  exact inside_bind_error rfl

end Call

namespace Store

variable {page : Page} {id : Int} {row : Account}

theorem inside_account {lookup : AccountLookup} (h : page.aborted = false)
    (hrow : page.view.account? lookup.id = some row) :
    (account .callers lookup).run.inside page = (page.asking (.selectAccount lookup), .ok row) := by
  have hask : (Call.ask (.selectAccount lookup)).run.inside page =
      (page.asking (.selectAccount lookup), .ok [row]) := by
    simp only [Call.ask, ExceptT.run_mk, Work.inside, Page.ask_selectAccount h, hrow]
    rfl
  exact Call.inside_bind_ok hask

theorem inside_account_none {lookup : AccountLookup} (h : page.aborted = false)
    (hrow : page.view.account? lookup.id = none) :
    (account .callers lookup).run.inside page =
      (page.asking (.selectAccount lookup), .error (.accountNotFound lookup.id)) := by
  have hask : (Call.ask (.selectAccount lookup)).run.inside page =
      (page.asking (.selectAccount lookup), .ok []) := by
    simp only [Call.ask, ExceptT.run_mk, Work.inside, Page.ask_selectAccount h, hrow]
    rfl
  exact Call.inside_bind_ok hask

theorem inside_setBalance {balance : Balance} (h : page.aborted = false)
    (hrow : page.view.account? id = some row) (hnonneg : 0 ≤ balance.value) :
    (setBalance .callers id balance).run.inside page =
      (page.writing (.updateAccount id balance)
        ⟨[{ row with balance := balance.value, updatedAt := page.around.now }], []⟩,
        .ok { row with balance := balance.value, updatedAt := page.around.now }) := by
  have hask : (Call.ask (.updateAccount id balance)).run.inside page =
      (page.writing (.updateAccount id balance)
        ⟨[{ row with balance := balance.value, updatedAt := page.around.now }], []⟩,
        .ok [{ row with balance := balance.value, updatedAt := page.around.now }]) := by
    simp only [Call.ask, ExceptT.run_mk, Work.inside, Page.ask_updateAccount h hrow hnonneg]
    rfl
  exact Call.inside_bind_ok hask

theorem inside_record {entry : NewEntry} (h : page.aborted = false)
    (hexist : (page.view.account? entry.account).isSome = true)
    (hnonneg : 0 ≤ entry.balanceAfter.value) :
    (record .callers entry).run.inside page =
      (page.writing (.insertEntry entry) ⟨[], [entry.row page.around.draws page.around.serial page.around.now]⟩,
        .ok (entry.row page.around.draws page.around.serial page.around.now)) := by
  have hask : (Call.ask (.insertEntry entry)).run.inside page =
      (page.writing (.insertEntry entry) ⟨[], [entry.row page.around.draws page.around.serial page.around.now]⟩,
        .ok [entry.row page.around.draws page.around.serial page.around.now]) := by
    simp only [Call.ask, ExceptT.run_mk, Work.inside, Page.ask_insertEntry h hexist hnonneg]
    rfl
  exact Call.inside_bind_ok hask

end Store

namespace Transfer

/-- The rows of the sender and of the receiver, if nothing is held against the command. -/
def examine (command : Command) (view : Books) : Except Failure (Account × Account) := do
  let amount ← command.validate.mapError .ledger
  let (low, high) := lockOrder command.source command.target
  let first ← (view.account? low).elim (.error (.accountNotFound low)) .ok
  let second ← (view.account? high).elim (.error (.accountNotFound high)) .ok
  let (sender, receiver) := resolveRoles command.source first second
  let _ ← balancesAfter sender receiver amount
  return (sender, receiver)

section

variable {onAccount : Account → Account} {onEntry : Entry → Entry}
  (hid : ∀ row, (onAccount row).id = row.id)
include hid

theorem resolveRoles_map (source : Int) (first second : Account) :
    resolveRoles source (onAccount first) (onAccount second) =
      (onAccount (resolveRoles source first second).1,
        onAccount (resolveRoles source first second).2) := by
  unfold resolveRoles
  rw [hid]
  split <;> rfl

variable (hbalance : ∀ row, (onAccount row).balance = row.balance)
include hbalance

theorem balancesAfter_map (sender receiver : Account) (amount : Amount) :
    balancesAfter (onAccount sender) (onAccount receiver) amount =
      balancesAfter sender receiver amount := by
  unfold balancesAfter Account.currentBalance
  rw [hbalance, hbalance, hid]

/-- Rows count in an examination by their numbers and balances. -/
theorem examine_map (command : Command) (view : Books) :
    examine command (view.map onAccount onEntry) = (examine command view).map fun (sender, receiver) =>
      (onAccount sender, onAccount receiver) := by
  unfold examine
  cases command.validate with
  | error => rfl
  | ok amount =>
  cases lockOrder command.source command.target with
  | mk low high =>
  dsimp only [Except.mapError, bind, Except.bind]
  rw [Books.account?_map hid, Books.account?_map hid]
  cases view.account? low with
  | none => rfl
  | some first =>
  cases view.account? high with
  | none => rfl
  | some second =>
  dsimp only [Option.map_some, Option.elim]
  rw [resolveRoles_map hid]
  dsimp only
  rw [balancesAfter_map hid hbalance]
  cases balancesAfter (resolveRoles command.source first second).1
    (resolveRoles command.source first second).2 amount <;> rfl

end

/-- The debit entry of a transfer that draws from the given serial number on. -/
def debit (command : Command) (sender : Account) (draws : Draws) (serial : Nat) (now : Instant) :
    Entry where
  id := draws.uuid (serial + 1)
  transfer := draws.uuid serial
  account := command.source
  amount := command.amount
  balanceAfter := sender.balance - command.amount
  side := .debit
  createdAt := now

/-- Its credit entry. -/
def credit (command : Command) (receiver : Account) (draws : Draws) (serial : Nat) (now : Instant) :
    Entry where
  id := draws.uuid (serial + 2)
  transfer := draws.uuid serial
  account := command.target
  amount := command.amount
  balanceAfter := receiver.balance + command.amount
  side := .credit
  createdAt := now

/-- All that a transfer changes: both rows, and an entry about each. -/
def changes (command : Command) (sender receiver : Account) (draws : Draws) (serial : Nat)
    (now : Instant) : Books where
  accounts := [
    { sender with balance := sender.balance - command.amount, updatedAt := now },
    { receiver with balance := receiver.balance + command.amount, updatedAt := now }]
  entries := [debit command sender draws serial now, credit command receiver draws serial now]

variable {command : Command} {page : Page} {sender receiver : Account}

/-- When both rows are there, the balances decide. -/
theorem examine_of_rows {view : Books} {amount : Amount} (hvalid : command.validate = .ok amount)
    (hsender : view.account? command.source = some sender)
    (hreceiver : view.account? command.target = some receiver) :
    examine command view =
      (balancesAfter sender receiver amount).map fun _ => (sender, receiver) := by
  have hsource : sender.id = command.source := Books.id_of_account? hsender
  have htarget : receiver.id = command.target := Books.id_of_account? hreceiver
  obtain ⟨hne, -⟩ := validate_ok hvalid
  rw [examine, hvalid]
  cases horder : lockOrder command.source command.target with
  | mk low high =>
  rcases eq_of_lockOrder horder with ⟨rfl, rfl⟩ | ⟨rfl, rfl⟩
  · simp only [Except.mapError, bind, Except.bind, hsender, hreceiver, Option.elim, resolveRoles,
      if_pos hsource]
    rfl
  · simp only [Except.mapError, bind, Except.bind, hsender, hreceiver, Option.elim, resolveRoles,
      htarget, if_neg (Ne.symm hne)]
    rfl

/-- How often the transfer draws before it examines the rows. -/
def draws (command : Command) : Nat := if command.validate.toBool then 1 else 0

/-- What a transfer comes to on a page. -/
def outcome (command : Command) (page : Page) : Except Failure Entry × Books × Nat :=
  match examine command page.view with
  | .error failure => (.error failure, page.view, page.around.serial + draws command)
  | .ok (sender, receiver) =>
    (.ok (debit command sender page.around.draws page.around.serial page.around.now),
      page.view.overlay
        (changes command sender receiver page.around.draws page.around.serial page.around.now),
      page.around.serial + 3)

theorem outcome_of_error {failure : Failure} (h : examine command page.view = .error failure) :
    outcome command page =
      (.error failure, page.view, page.around.serial + draws command) := by
  rw [outcome, h]

theorem outcome_of_ok (h : examine command page.view = .ok (sender, receiver)) :
    outcome command page =
      (.ok (debit command sender page.around.draws page.around.serial page.around.now),
        page.view.overlay
        (changes command sender receiver page.around.draws page.around.serial page.around.now),
        page.around.serial + 3) := by
  rw [outcome, h]

/-- The statement locks no row but those of the two accounts. -/
def Confined (command : Command) (statement : Statement) : Prop :=
  ∀ (published : Books) (account : Int), statement.lockedAccount? published = some account →
    account = command.source ∨ account = command.target

theorem confined_of_map {statement : Statement} {id : Int}
    (h : ∀ published, statement.lockedAccount? published = (published.account? id).map (·.id))
    (hid : id = command.source ∨ id = command.target) : Confined command statement := by
  intro published account hlocked
  rw [h, Books.map_id_account?] at hlocked
  split at hlocked
  · cases hlocked
    exact hid
  · cases hlocked

/-- The page after one side of a transfer has been written: the row with its new balance, and the
entry. -/
def posted (page : Page) (row : Account) (entry : NewEntry) : Page :=
  (page.writing (.updateAccount entry.account entry.balanceAfter)
    ⟨[{ row with balance := entry.balanceAfter.value, updatedAt := page.around.now }], []⟩).writing
    (.insertEntry entry) ⟨[], [entry.row page.around.draws page.around.serial page.around.now]⟩

theorem account?_posted {row : Account} {entry : NewEntry} {id : Int} (hne : row.id ≠ id) :
    (posted page row entry).view.account? id = page.view.account? id := by
  rw [posted, Page.writing, Page.writing, Books.account?_overlay_entries,
    Books.account?_overlay_single, if_neg hne]

theorem inside_post {side : Side} {transfer : Uuid} {id : Int} {balance : Balance} {amount : Amount}
    {row : Account} (h : page.aborted = false) (hrow : page.view.account? id = some row)
    (hnonneg : 0 ≤ balance.value) :
    (post side transfer id balance amount).run.inside page =
      (posted page row ⟨transfer, id, amount, balance, side⟩,
        .ok (NewEntry.row ⟨transfer, id, amount, balance, side⟩ page.around.draws
          page.around.serial page.around.now)) := by
  have hid : row.id = id := Books.id_of_account? hrow
  have hentry : NewEntry.ofAccount side transfer
      { row with balance := balance.value, updatedAt := page.around.now } amount =
      .ok ⟨transfer, id, amount, balance, side⟩ := by
    have hok : Balance.ofInt balance.value = .ok balance := Balance.ofInt_eq_ok_iff.mpr ⟨hnonneg, rfl⟩
    simp only [NewEntry.ofAccount, NewEntry.ofBalance, hok, hid]
    rfl
  have hexist : ((page.writing (.updateAccount id balance)
      ⟨[{ row with balance := balance.value, updatedAt := page.around.now }], []⟩).view.account?
        id).isSome = true := Books.isSome_overlay _ (by rw [hrow]; rfl)
  unfold post
  rw [Call.inside_bind_ok (Store.inside_setBalance h hrow hnonneg), Call.inside_ofExcept_ok hentry]
  exact @Store.inside_record (page.writing _ _) ⟨transfer, id, amount, balance, side⟩ h hexist hnonneg

/-- Writing both sides, when the balances have been computed. -/
theorem inside_postBoth {shared : Nat} {amount : Amount} {debited credited : Balance}
    (h : page.aborted = false) (hsender : page.view.account? command.source = some sender)
    (hreceiver : page.view.account? command.target = some receiver)
    (hne : command.source ≠ command.target) (hamount : amount.value = command.amount)
    (hserial : page.around.serial = shared + 1)
    (hbalances : balancesAfter sender receiver amount = .ok (debited, credited)) :
    ∃ asked, (∀ statement ∈ asked, Confined command statement) ∧
      (postBoth (page.around.draws.uuid shared) sender receiver amount).run.inside page =
        ({ page with
            view := page.view.overlay
              (changes command sender receiver page.around.draws shared page.around.now)
            around.serial := shared + 3
            asked := page.asked ++ asked },
          .ok (debit command sender page.around.draws shared page.around.now)) := by
  obtain ⟨hdebited, hnonneg, hcredited, hnonneg'⟩ := balancesAfter_ok hbalances
  have hsource : sender.id = command.source := Books.id_of_account? hsender
  have htarget : receiver.id = command.target := Books.id_of_account? hreceiver
  have hdiffer : sender.id ≠ receiver.id := by rwa [hsource, htarget]
  rw [← hsource] at hsender
  rw [← htarget] at hreceiver
  refine ⟨[.updateAccount sender.id debited,
    .insertEntry ⟨page.around.draws.uuid shared, sender.id, amount, debited, .debit⟩,
    .updateAccount receiver.id credited,
    .insertEntry ⟨page.around.draws.uuid shared, receiver.id, amount, credited, .credit⟩], ?_, ?_⟩
  · have hconfined : ∀ id balance, id = command.source ∨ id = command.target →
        Confined command (.updateAccount id balance) :=
      fun id balance hid => confined_of_map (fun _ => rfl) hid
    have hinsert : ∀ entry, Confined command (.insertEntry entry) :=
      fun entry published account hlocked => by cases hlocked
    simp only [List.forall_mem_cons]
    exact ⟨hconfined _ _ (.inl hsource), hinsert _, hconfined _ _ (.inr htarget), hinsert _,
      List.forall_mem_nil _⟩
  · have hreceiver' : (posted page sender ⟨page.around.draws.uuid shared, sender.id, amount, debited, .debit⟩).view.account?
        receiver.id = some receiver := by rw [account?_posted hdiffer, hreceiver]
    unfold postBoth
    rw [Call.inside_ofExcept_ok hbalances]
    dsimp only
    rw [Call.inside_bind_ok (inside_post h hsender hnonneg),
      Call.inside_bind_ok (@inside_post (posted page sender _) _ _ _ _ _ _ h hreceiver' hnonneg')]
    have hdebit : NewEntry.row ⟨page.around.draws.uuid shared, sender.id, amount, debited, .debit⟩
        page.around.draws (shared + 1) page.around.now =
        debit command sender page.around.draws shared page.around.now := by
      simp only [NewEntry.row, debit, hsource, hamount, hdebited]
    have hcredit : NewEntry.row ⟨page.around.draws.uuid shared, receiver.id, amount, credited, .credit⟩
        page.around.draws (shared + 2) page.around.now =
        credit command receiver page.around.draws shared page.around.now := by
      simp only [NewEntry.row, credit, htarget, hamount, hcredited]
    rw [← hdebit, changes, ← hdebit, ← hcredit, ← hamount, ← hdebited, ← hcredited]
    simp only [posted, Page.writing, Books.overlay, List.foldl_cons, List.foldl_nil, List.append_nil,
      List.append_assoc, List.cons_append, List.nil_append, hserial]
    rfl

/-- Rows found in lock order are those of the sender and of the receiver. -/
theorem of_resolveRoles {view : Books} {source target low high : Int} {first second : Account}
    (horder : lockOrder source target = (low, high)) (hne : source ≠ target)
    (hfirst : view.account? low = some first) (hsecond : view.account? high = some second)
    (hroles : resolveRoles source first second = (sender, receiver)) :
    view.account? source = some sender ∧ view.account? target = some receiver := by
  have hlow : first.id = low := Books.id_of_account? hfirst
  unfold resolveRoles at hroles
  rcases eq_of_lockOrder horder with ⟨rfl, rfl⟩ | ⟨rfl, rfl⟩
  · rw [if_pos hlow] at hroles
    cases hroles
    exact ⟨hfirst, hsecond⟩
  · rw [if_neg fun he => hne (he.symm.trans hlow)] at hroles
    cases hroles
    exact ⟨hsecond, hfirst⟩

/-- What a transfer that has drawn its identifier comes to when both rows have been found. -/
theorem inside_found {amount : Amount} (h : page.aborted = false)
    (hvalid : command.validate = .ok amount)
    (hsender : page.view.account? command.source = some sender)
    (hreceiver : page.view.account? command.target = some receiver) (former : List Statement) :
    ∃ asked, (∀ statement ∈ asked, Confined command statement) ∧
      (postBoth page.draw.uuid sender receiver amount).run.inside
          { page.drawn with asked := former } =
        ({ page with
            view := (outcome command page).2.1
            around.serial := (outcome command page).2.2
            asked := former ++ asked }, (outcome command page).1) := by
  obtain ⟨hne, hamount⟩ := validate_ok hvalid
  have hexamine := examine_of_rows hvalid hsender hreceiver
  cases hbalances : balancesAfter sender receiver amount with
  | error failure =>
    rw [hbalances] at hexamine
    have hdraws : draws command = 1 := by simp [draws, hvalid, Except.toBool]
    refine ⟨[], List.forall_mem_nil _, ?_⟩
    rw [postBoth, Call.inside_ofExcept_error hbalances, outcome_of_error hexamine, hdraws,
      List.append_nil]
    rfl
  | ok balances =>
    rw [hbalances] at hexamine
    obtain ⟨asked, hasked, hboth⟩ := @inside_postBoth command { page.drawn with asked := former }
      sender receiver page.around.serial amount balances.1 balances.2 h hsender hreceiver hne hamount
      rfl hbalances
    refine ⟨asked, hasked, ?_⟩
    refine hboth.trans ?_
    rw [outcome_of_ok hexamine]
    rfl

theorem confined_select {id : Int} (hid : id = command.source ∨ id = command.target) :
    Confined command (.selectAccount (AccountLookup.byId id).forUpdate) :=
  confined_of_map (fun _ => rfl) hid

/-- Inside a transaction that is not aborted, a transfer comes to its outcome, and locks no row but
those of the two accounts. -/
theorem inside_perform (command : Command) (h : page.aborted = false) :
    ∃ asked, (∀ statement ∈ asked, Confined command statement) ∧
      (perform command).run.inside page =
        ({ page with
            view := (outcome command page).2.1
            around.serial := (outcome command page).2.2
            asked := page.asked ++ asked }, (outcome command page).1) := by
  unfold perform
  cases hvalid : command.validate with
  | error error =>
    have hexamine : examine command page.view = .error (.ledger error) := by
      rw [examine, hvalid]
      rfl
    have hdraws : draws command = 0 := by simp [draws, hvalid, Except.toBool]
    refine ⟨[], List.forall_mem_nil _, ?_⟩
    rw [← hvalid, Call.inside_ofExcept_error hvalid, outcome_of_error hexamine, hdraws, List.append_nil]
    rfl
  | ok amount =>
  obtain ⟨hne, -⟩ := validate_ok hvalid
  have hdraws : draws command = 1 := by simp [draws, hvalid, Except.toBool]
  rw [← hvalid, Call.inside_ofExcept_ok hvalid, Call.inside_bind_ok (Call.inside_draw page)]
  dsimp only
  cases horder : lockOrder command.source command.target with
  | mk low high =>
  have hlow : low = command.source ∨ low = command.target := by
    rcases eq_of_lockOrder horder with ⟨rfl, -⟩ | ⟨rfl, -⟩ <;> simp
  have hhigh : high = command.source ∨ high = command.target := by
    rcases eq_of_lockOrder horder with ⟨-, rfl⟩ | ⟨-, rfl⟩ <;> simp
  dsimp only
  cases hfirst : page.view.account? low with
  | none =>
    have hexamine : examine command page.view = .error (.accountNotFound low) := by
      simp only [examine, hvalid, horder, hfirst]
      rfl
    refine ⟨[.selectAccount (AccountLookup.byId low).forUpdate], ?_, ?_⟩
    · exact List.forall_mem_singleton.mpr (confined_select hlow)
    · rw [Call.inside_bind_error
          (@Store.inside_account_none page.drawn (AccountLookup.byId low).forUpdate h hfirst),
        outcome_of_error hexamine, hdraws]
      rfl
  | some first =>
  rw [Call.inside_bind_ok
    (@Store.inside_account page.drawn _ (AccountLookup.byId low).forUpdate h hfirst)]
  cases hsecond : page.view.account? high with
  | none =>
    have hexamine : examine command page.view = .error (.accountNotFound high) := by
      simp only [examine, hvalid, horder, hfirst, hsecond]
      rfl
    refine ⟨[.selectAccount (AccountLookup.byId low).forUpdate,
      .selectAccount (AccountLookup.byId high).forUpdate], ?_, ?_⟩
    · simpa using ⟨confined_select hlow, confined_select hhigh⟩
    · rw [Call.inside_bind_error (@Store.inside_account_none (page.drawn.asking _)
          (AccountLookup.byId high).forUpdate h hsecond),
        outcome_of_error hexamine, hdraws]
      simp [Page.asking, Page.drawn]
      rfl
  | some second =>
  rw [Call.inside_bind_ok (@Store.inside_account (page.drawn.asking _) _
    (AccountLookup.byId high).forUpdate h hsecond)]
  cases hroles : resolveRoles command.source first second with
  | mk sender receiver =>
  obtain ⟨hsender, hreceiver⟩ := of_resolveRoles horder hne hfirst hsecond hroles
  obtain ⟨asked, hasked, hfound⟩ := inside_found h hvalid hsender hreceiver (page.asked ++
    [.selectAccount (AccountLookup.byId low).forUpdate] ++
    [.selectAccount (AccountLookup.byId high).forUpdate])
  refine ⟨.selectAccount (AccountLookup.byId low).forUpdate ::
    .selectAccount (AccountLookup.byId high).forUpdate :: asked, ?_, ?_⟩
  · exact List.forall_mem_cons.mpr
      ⟨confined_select hlow, List.forall_mem_cons.mpr ⟨confined_select hhigh, hasked⟩⟩
  · refine hfound.trans ?_
    simp only [List.append_assoc, List.cons_append, List.nil_append]

end Transfer

end Passbook
