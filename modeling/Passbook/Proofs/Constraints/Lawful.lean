import Passbook.Proofs.Ledger.Dealings
import Passbook.Proofs.Race.Executes

/-! # Lawful work

Work is lawful if it writes about known accounts only, and no negative balances, as long as it is
answered as it expects (`Work.Lawful`). Transfers are: what they check before they write is all that
the schema asks for. They are also cautious (`Transfer.cautious_perform`): as long as they have only
read, they may be turned down (`Transfer.Declines`), but once they ask for a write, true answers leave
the storage as the only thing that can make them fail. -/

namespace Passbook

/-- The row has a balance that an account may have. -/
def Account.Solvent (row : Account) : Prop := 0 ≤ row.balance ∧ row.balance ≤ maxMoney

instance (row : Account) : Decidable row.Solvent := inferInstanceAs (Decidable (_ ∧ _))

variable {Known : Int → Prop} {truly : Prop}

namespace Statement

/-- The statement writes about known accounts and no negative balances, and adds no account. -/
def Lawful (Known : Int → Prop) : Statement → Prop
  | updateAccount id balance => Known id ∧ 0 ≤ balance.value
  | insertEntry entry => Known entry.account ∧ 0 ≤ entry.balanceAfter.value
  | insertAccount .. => False
  | _ => True

/-- What a statement may be answered with if just the known accounts are there, and all are solvent.
Rows have the number that was asked for. If the answer is true, a known account is found, and what has
been written comes back as it was written. -/
def Expects (Known : Int → Prop) (truly : Prop) : (statement : Statement) → statement.Answer → Prop
  | selectAccount lookup, .ok rows =>
    (∀ row ∈ rows, row.id = lookup.id ∧ Known row.id ∧ (truly → row.Solvent)) ∧
      (truly → rows = [] → ¬ Known lookup.id)
  | updateAccount id balance, .ok rows =>
    (∀ row ∈ rows, row.id = id) ∧ (truly → ∃ row, rows = [row] ∧ row.balance = balance.value)
  | insertEntry _, .ok rows => truly → ∃ row, rows = [row]
  | _, _ => True

theorem lawful_of_not_isWrite {statement : Statement} (h : statement.isWrite = false) :
    statement.Lawful Known := by
  cases statement <;> trivial

end Statement

namespace Work

variable {α β : Type} {Ends : α → Prop} {Ends' : β → Prop}

/-- The work asks for lawful statements only, and ends as given, as long as it is answered as it
expects. -/
inductive Lawful (Known : Int → Prop) (truly : Prop) (Ends : α → Prop) : Work α → Prop
  | done {value : α} : Ends value → Lawful Known truly Ends (.done value)
  | connect {next : Except StorageError Unit → Work α} :
      (∀ result, Lawful Known truly Ends (next result)) → Lawful Known truly Ends (.connect next)
  | giveBack {rest : Work α} : Lawful Known truly Ends rest → Lawful Known truly Ends (.giveBack rest)
  | exec {statement : Statement} {next : statement.Answer → Work α} : statement.Lawful Known →
      (∀ answer, statement.Expects Known truly answer → Lawful Known truly Ends (next answer)) →
      Lawful Known truly Ends (.exec statement next)
  | draw {next : Draw → Work α} : (∀ drawn, Lawful Known truly Ends (next drawn)) →
      Lawful Known truly Ends (.draw next)
  | report {reply : Reply} {rest : Work α} : Lawful Known truly Ends rest →
      Lawful Known truly Ends (.report reply rest)

theorem Lawful.bind {work : Work α} {f : α → Work β} (h : work.Lawful Known truly Ends)
    (hf : ∀ value, Ends value → (f value).Lawful Known truly Ends') :
    (work.bind f).Lawful Known truly Ends' := by
  induction h with
  | done hv => exact hf _ hv
  | connect _ ih => exact .connect ih
  | giveBack _ ih => exact .giveBack ih
  | exec hs _ ih => exact .exec hs ih
  | draw _ ih => exact .draw ih
  | report _ ih => exact .report ih

theorem Lawful.mono {work : Work α} {Ends' : α → Prop} (h : work.Lawful Known truly Ends)
    (hends : ∀ value, Ends value → Ends' value) : work.Lawful Known truly Ends' := by
  rw [← bind_done work]
  exact h.bind fun value hv => .done (hends value hv)

/-- The work reads and ends as given, or asks for a write; from then on it is lawful and ends as given
for later. -/
inductive Cautious (Known : Int → Prop) (truly : Prop) (Ends Later : α → Prop) : Work α → Prop
  | done {value : α} : Ends value → Cautious Known truly Ends Later (.done value)
  | read {statement : Statement} {next : statement.Answer → Work α} : statement.isWrite = false →
      (∀ answer, statement.Expects Known truly answer →
        Cautious Known truly Ends Later (next answer)) →
      Cautious Known truly Ends Later (.exec statement next)
  | write {statement : Statement} {next : statement.Answer → Work α} :
      (Work.exec statement next).Lawful Known truly Later →
      Cautious Known truly Ends Later (.exec statement next)
  | draw {next : Draw → Work α} : (∀ drawn, Cautious Known truly Ends Later (next drawn)) →
      Cautious Known truly Ends Later (.draw next)

theorem Cautious.lawful {work : Work α} {Later : α → Prop} (h : work.Cautious Known truly Ends Later)
    (hlater : ∀ value, Later value → Ends value) : work.Lawful Known truly Ends := by
  induction h with
  | done hv => exact .done hv
  | read hs _ ih => exact .exec (Statement.lawful_of_not_isWrite hs) ih
  | write h => exact h.mono hlater
  | draw _ ih => exact .draw ih

theorem Obeys.lawful {work : Work α} {Asks : Statement → Prop} (h : work.Obeys Asks Ends)
    (hasks : ∀ statement, Asks statement → statement.Lawful Known) :
    work.Lawful Known truly Ends := by
  induction h with
  | done hv => exact .done hv
  | exec hs _ ih => exact .exec (hasks _ hs) fun answer _ => ih answer
  | draw _ ih => exact .draw ih
  | report _ ih => exact .report ih

theorem Reads.lawful {work : Work α} (h : work.Reads) :
    work.Lawful Known truly fun _ => True :=
  Obeys.lawful h fun _ hs => Statement.lawful_of_not_isWrite hs.2

end Work

namespace Call

variable {α β : Type} {Ends : Except Failure β → Prop}

/-- The call asks for lawful statements only, and ends as given. -/
abbrev Lawful (Known : Int → Prop) (truly : Prop) (Ends : Except Failure α → Prop)
    (call : Call α) : Prop :=
  call.run.Lawful Known truly Ends

theorem lawful_bind {Results : Except Failure α → Prop} {call : Call α} {f : α → Call β}
    (h : call.Lawful Known truly Results)
    (hok : ∀ value, Results (.ok value) → (f value).Lawful Known truly Ends)
    (herror : ∀ failure, Results (.error failure) → Ends (.error failure)) :
    (call >>= f).Lawful Known truly Ends := by
  rw [Lawful, run_bind]
  refine h.bind fun result hresult => ?_
  cases result with
  | ok value => exact hok value hresult
  | error failure => exact .done (herror failure hresult)

end Call

/-- If the answers are true, only the storage can have made the call fail. -/
def StorageFails {α : Type} (truly : Prop) (result : Except Failure α) : Prop :=
  truly → ∀ failure, result = .error failure → ∃ error, failure = .storage error

namespace Store

/-- What the reading of an account comes to. -/
def Reads (Known : Int → Prop) (truly : Prop) (id : Int) : Except Failure Account → Prop
  | .ok row => row.id = id ∧ Known id ∧ (truly → row.Solvent)
  | .error failure => truly → (∃ error, failure = .storage error) ∨
      failure = .accountNotFound id ∧ ¬ Known id

theorem cautious_account {α : Type} {Ends Later : Except Failure α → Prop} {f : Account → Call α}
    {lookup : AccountLookup}
    (hok : ∀ row, Reads Known truly lookup.id (.ok row) →
      (f row).run.Cautious Known truly Ends Later)
    (herror : ∀ failure, Reads Known truly lookup.id (.error failure) → Ends (.error failure)) :
    (account .callers lookup >>= f).run.Cautious Known truly Ends Later := by
  refine .read rfl fun answer hanswer => ?_
  match answer with
  | .error error => exact .done (herror _ fun _ => .inl ⟨error, rfl⟩)
  | .ok [] => exact .done (herror _ fun htruly => .inr ⟨rfl, hanswer.2 htruly rfl⟩)
  | .ok (row :: rows) =>
    obtain ⟨hid, hknown, hsolvent⟩ := hanswer.1 row List.mem_cons_self
    exact hok row ⟨hid, hid ▸ hknown, hsolvent⟩

/-- What the setting of a balance comes to. -/
def Sets (truly : Prop) (id : Int) (balance : Balance) (result : Except Failure Account) : Prop :=
  StorageFails truly result ∧
    ∀ row, result = .ok row → row.id = id ∧ (truly → row.balance = balance.value)

theorem lawful_setBalance {id : Int} {balance : Balance} (hknown : Known id)
    (hnonneg : 0 ≤ balance.value) :
    (setBalance .callers id balance).Lawful Known truly (Sets truly id balance) := by
  refine .exec ⟨hknown, hnonneg⟩ fun answer hanswer => ?_
  match answer with
  | .error error => exact .done ⟨fun _ _ he => by cases he; exact ⟨error, rfl⟩, nofun⟩
  | .ok [] =>
    refine .done ⟨fun htruly => ?_, nofun⟩
    obtain ⟨row, hrow, -⟩ := hanswer.2 htruly
    cases hrow
  | .ok (row :: rows) =>
    refine .done ⟨fun _ => nofun, fun other he => ?_⟩
    cases he
    refine ⟨hanswer.1 row List.mem_cons_self, fun htruly => ?_⟩
    obtain ⟨_, hrow, hbalance⟩ := hanswer.2 htruly
    cases hrow
    exact hbalance

theorem lawful_record {entry : NewEntry} (hknown : Known entry.account)
    (hnonneg : 0 ≤ entry.balanceAfter.value) :
    (record .callers entry).Lawful Known truly (StorageFails truly) := by
  refine .exec ⟨hknown, hnonneg⟩ fun answer hanswer => ?_
  match answer with
  | .error error => exact .done fun _ _ he => by cases he; exact ⟨error, rfl⟩
  | .ok [] => exact .done fun _ _ he => by cases he; exact ⟨_, rfl⟩
  | .ok (row :: rows) => exact .done fun _ => nofun

end Store

namespace Transfer

open Call

/-- How a transfer is turned down before it has written anything, or fails by the storage: the command
makes no sense, one of its accounts is not there, the sender cannot pay or the receiver has no room. -/
inductive Declines (Known : Int → Prop) (command : Command) : Failure → Prop
  | invalid {error : LedgerError} : command.validate = .error error →
      Declines Known command (.ledger error)
  | unknown {id : Int} : id ∈ command.accounts → ¬ Known id →
      Declines Known command (.accountNotFound id)
  | uncovered {available : Int} : 0 ≤ available → available < command.amount →
      Declines Known command (.ledger (.insufficientBalance command.amount available))
  | overflow : Declines Known command (.ledger (.balanceOverflow command.target))
  | storage (error : StorageError) : Declines Known command (.storage error)

variable {side : Side} {shared : Uuid} {id : Int} {balance : Balance} {amount : Amount}
  {sender receiver : Account} {command : Command}

/-- A transfer that the receiver has no room for. -/
theorem balancesAfter_of_no_room (hsender : sender.Solvent) (hreceiver : receiver.Solvent)
    (hpays : amount.value ≤ sender.balance)
    (hfull : maxMoney < receiver.balance + amount.value) :
    balancesAfter sender receiver amount = .error (.ledger (.balanceOverflow receiver.id)) := by
  have hpos := amount.value_pos
  obtain ⟨hnonneg, hle⟩ := hsender
  obtain ⟨paying, hpaying, hvalue⟩ := ofInt_ok _ hnonneg hle
  obtain ⟨paid, hpaid, hvalue'⟩ := ofInt_ok _ hreceiver.1 hreceiver.2
  obtain ⟨debited, hdebited, -⟩ :=
    ofInt_ok (paying.value - amount.value) (by omega) (by omega)
  have hcovers : paying.covers amount = true := decide_eq_true (by omega)
  have hoverflow : Balance.ofInt (paid.value + amount.value) = .error .overflow := by
    rw [Balance.ofInt, dif_pos (by omega), dif_neg (by omega)]
  rw [balancesAfter, Account.currentBalance, hpaying, Account.currentBalance, hpaid]
  simp only [Except.mapError, bind, Except.bind, hcovers, Bool.true_eq_false, if_false,
    Balance.debit, Balance.credit, hdebited, hoverflow]

/-- Between solvent accounts nothing else can be wrong with the balances. -/
theorem balancesAfter_declines {failure : Failure} (hsender : sender.Solvent)
    (hreceiver : receiver.Solvent) (h : balancesAfter sender receiver amount = .error failure) :
    sender.balance < amount.value ∧
        failure = .ledger (.insufficientBalance amount.value sender.balance) ∨
      failure = .ledger (.balanceOverflow receiver.id) := by
  by_cases hpays : amount.value ≤ sender.balance
  · by_cases hroom : receiver.balance + amount.value ≤ maxMoney
    · obtain ⟨debited, credited, hok⟩ :=
        balancesAfter_of_covers hsender.1 hsender.2 hreceiver.1 hroom hpays
      cases hok.symm.trans h
    · have hfull := balancesAfter_of_no_room hsender hreceiver hpays (Int.not_le.mp hroom)
      exact .inr (Except.error.inj (h.symm.trans hfull))
  · have hshort := Int.not_le.mp hpays
    exact .inl ⟨hshort, Except.error.inj
      (h.symm.trans (balancesAfter_of_not_covers hsender.1 hsender.2 hshort))⟩

/-- One side of a transfer. With true answers only the storage can make it fail. -/
theorem lawful_post (hknown : Known id) (hnonneg : 0 ≤ balance.value) :
    (post side shared id balance amount).Lawful Known truly (StorageFails truly) := by
  refine lawful_bind (Store.lawful_setBalance hknown hnonneg) (fun row hrow => ?_) ?_
  · obtain ⟨hid, hbalance⟩ := hrow.2 row rfl
    cases hentry : NewEntry.ofAccount side shared row amount with
    | ok entry =>
      obtain ⟨after, hafter, rfl⟩ : ∃ after, Balance.ofInt row.balance = .ok after ∧
          (⟨shared, row.id, amount, after, side⟩ : NewEntry) = entry := by
        rw [NewEntry.ofAccount, NewEntry.ofBalance] at hentry
        cases hafter : Balance.ofInt row.balance with
        | error => rw [hafter] at hentry; cases hentry
        | ok after => rw [hafter] at hentry; exact ⟨after, rfl, Except.ok.inj hentry⟩
      obtain ⟨hnonneg', hvalue⟩ := Balance.ofInt_eq_ok_iff.mp hafter
      exact Store.lawful_record (by rw [hid]; exact hknown) (by rw [hvalue]; exact hnonneg')
    | error error =>
      refine .done fun htruly => ?_
      have hsame : NewEntry.ofAccount side shared row amount =
          .ok ⟨shared, row.id, amount, balance, side⟩ := by
        rw [NewEntry.ofAccount, NewEntry.ofBalance, hbalance htruly,
          Balance.ofInt_eq_ok_iff.mpr ⟨hnonneg, rfl⟩]
        rfl
      cases hsame.symm.trans hentry
  · exact fun failure hfails htruly _ he => by cases he; exact hfails.1 htruly failure rfl

/-- How a transfer ends that has not written anything, if the answers were true. -/
def Ends (Known : Int → Prop) (truly : Prop) (command : Command) (result : Except Failure Entry) :
    Prop :=
  truly → ∀ failure, result = .error failure → Declines Known command failure

theorem cautious_postBoth (hsender : Known sender.id) (hreceiver : Known receiver.id)
    (hsolvent : truly → sender.Solvent ∧ receiver.Solvent) (hamount : amount.value = command.amount)
    (htarget : receiver.id = command.target) :
    (postBoth shared sender receiver amount).run.Cautious Known truly (Ends Known truly command)
      (StorageFails truly) := by
  unfold postBoth
  cases hbalances : balancesAfter sender receiver amount with
  | error failure =>
    refine .done ?_
    rintro htruly _ ⟨⟩
    obtain ⟨hpayer, hpayee⟩ := hsolvent htruly
    rcases balancesAfter_declines hpayer hpayee hbalances with ⟨hshort, rfl⟩ | rfl
    · rw [hamount] at hshort ⊢
      exact .uncovered hpayer.1 hshort
    · rw [htarget]
      exact .overflow
  | ok balances =>
    obtain ⟨debited, credited⟩ := balances
    obtain ⟨-, hdebited, -, hcredited⟩ := balancesAfter_ok hbalances
    have hpays : (post .debit shared sender.id debited amount).Lawful Known truly
        (StorageFails truly) := lawful_post hsender hdebited
    have hreceives : (post .credit shared receiver.id credited amount).Lawful Known truly
        (StorageFails truly) := lawful_post hreceiver hcredited
    have hposts : (post .debit shared sender.id debited amount >>= fun debit =>
        post .credit shared receiver.id credited amount >>= fun _ => pure debit).Lawful Known truly
          (StorageFails truly) :=
      lawful_bind hpays (fun debit _ => lawful_bind hreceives (fun _ _ => .done fun _ => nofun)
        fun _ hfails htruly _ he => by cases he; exact hfails htruly _ rfl)
        fun _ hfails htruly _ he => by cases he; exact hfails htruly _ rfl
    exact .write hposts

/-- A transfer may be turned down as long as it has only read. Once it asks for a write, with true
answers it fails by the storage alone. -/
theorem cautious_perform (command : Command) :
    (perform command).run.Cautious Known truly (Ends Known truly command) (StorageFails truly) := by
  have hread : ∀ id, id ∈ command.accounts → ∀ failure,
      Store.Reads Known truly id (.error failure) → Ends Known truly command (.error failure) := by
    rintro id hid failure hreads htruly _ ⟨⟩
    rcases hreads htruly with ⟨error, rfl⟩ | ⟨rfl, hunknown⟩
    · exact .storage error
    · exact .unknown hid hunknown
  unfold perform
  cases hvalid : command.validate with
  | error error =>
    refine .done ?_
    rintro - _ ⟨⟩
    exact .invalid hvalid
  | ok amount =>
    obtain ⟨hdiffer, hamount⟩ := validate_ok hvalid
    refine .draw fun drawn => ?_
    cases horder : lockOrder command.source command.target with | mk low high
    have hlow : low ∈ command.accounts ∧ high ∈ command.accounts := by
      rcases eq_of_lockOrder horder with ⟨rfl, rfl⟩ | ⟨rfl, rfl⟩ <;> simp [Command.accounts]
    refine Store.cautious_account (fun first hfirst => ?_) (hread low hlow.1)
    refine Store.cautious_account (fun second hsecond => ?_) (hread high hlow.2)
    obtain ⟨hid, hknown, hsolvent⟩ := hfirst
    obtain ⟨hid', hknown', hsolvent'⟩ := hsecond
    dsimp only [AccountLookup.forUpdate, AccountLookup.byId] at hid hid' hknown hknown'
    rcases eq_of_lockOrder horder with ⟨rfl, rfl⟩ | ⟨rfl, rfl⟩
    · rw [resolveRoles, if_pos hid]
      exact cautious_postBoth (hid ▸ hknown) (hid' ▸ hknown')
        (fun htruly => ⟨hsolvent htruly, hsolvent' htruly⟩) hamount hid'
    · rw [resolveRoles, if_neg (by rw [hid]; exact Ne.symm hdiffer)]
      exact cautious_postBoth (hid' ▸ hknown') (hid ▸ hknown)
        (fun htruly => ⟨hsolvent' htruly, hsolvent htruly⟩) hamount hid

theorem lawful_perform (command : Command) :
    (perform command).Lawful Known truly (Ends Known truly command) := by
  refine (cautious_perform command).lawful fun result hfails htruly failure he => ?_
  obtain ⟨error, rfl⟩ := hfails htruly failure he
  exact .storage error

end Transfer

end Passbook
