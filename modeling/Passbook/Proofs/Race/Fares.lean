import Passbook.Proofs.Deadlock.Climbs
import Passbook.Proofs.Serial.Replay
import Passbook.Proofs.Transfer.Moved

/-! # What a transfer comes to

Work fares well on the committed books if the database refuses none of its statements there
(`Work.Fares`). As long as the books agree on what it has locked, its replays tell how it goes on
(`Replays.fares`). A transfer that finds both rows, and room for its amount in the receiver's, fares
well: it succeeds if the sender can pay and fails with what the sender has otherwise
(`Transfer.fares_perform`). -/

namespace Passbook

namespace Work

variable {α β : Type} {Ends : α → Prop} {Ends' : β → Prop} {books changes : Books}

/-- On the books with these changes laid over them every statement of the work is guarded and none is
refused, and so the work ends, whatever is generated for it. -/
inductive Fares (Ends : α → Prop) (books : Books) : Work α → Books → Prop
  | done {value : α} {changes : Books} : Ends value → Fares Ends books (.done value) changes
  | exec {statement : Statement} {next : statement.Answer → Work α} {changes : Books} :
      statement.isGuarded = true →
      (∀ around, ∃ effect, statement.effect around (books.overlay changes) = .ok effect) →
      (∀ around effect, statement.effect around (books.overlay changes) = .ok effect →
        Fares Ends books (next (.ok effect.rows)) (changes.overlay effect.changes)) →
      Fares Ends books (.exec statement next) changes
  | draw {next : Draw → Work α} {changes : Books} :
      (∀ drawn, Fares Ends books (next drawn) changes) → Fares Ends books (.draw next) changes
  | report {reply : Reply} {rest : Work α} {changes : Books} : Fares Ends books rest changes →
      Fares Ends books (.report reply rest) changes

theorem Fares.of_passes {work rest : Work α} (h : work.Fares Ends books changes)
    {draws : Draws} (hp : work.Passes draws rest) : rest.Fares Ends books changes := by
  induction hp with
  | done | exec => exact h
  | draw serial _ ih => cases h with | draw hnext => exact ih (hnext _)
  | report reply _ ih => cases h with | report hrest => exact ih hrest

theorem Fares.bind {work : Work α} {f : α → Work β} (h : work.Fares Ends books changes)
    (hf : ∀ value changes, Ends value → (f value).Fares Ends' books changes) :
    (work.bind f).Fares Ends' books changes := by
  induction h with
  | done hv => exact hf _ _ hv
  | exec hg hok _ ih => exact .exec hg hok ih
  | draw _ ih => exact .draw ih
  | report _ ih => exact .report ih

/-- Work that fares well goes on to do so when it has come as far as it can be replayed. -/
theorem Replays.fares {Held : Int → Prop} {draws : Draws} {began : Instant} {work rest : Work α}
    (h : work.Replays Held books draws began changes rest) (hf : work.Fares Ends books .empty) :
    rest.Fares Ends books changes := by
  induction h with
  | start => exact hf
  | exec _ _ _ _ _ he ih => cases ih with | exec _ _ hnext => exact hnext _ _ he
  | draw serial _ ih => cases ih with | draw hnext => exact hnext _
  | report _ ih => cases ih with | report hrest => exact hrest

end Work

namespace Call

variable {α β : Type} {Ends : Except Failure β → Prop} {books changes : Books} {id : Int}

/-- The call fares well on the books with these changes laid over them. -/
abbrev Fares (Ends : Except Failure α → Prop) (books changes : Books) (call : Call α) : Prop :=
  call.run.Fares Ends books changes

theorem fares_ofExcept {ε : Type} {failure : ε → Failure} {result : Except ε α} {f : α → Call β}
    (h : ∀ value, result = .ok value → (f value).Fares Ends books changes)
    (herror : ∀ error, result = .error error → Ends (.error (failure error))) :
    (ofExcept failure result >>= f).Fares Ends books changes := by
  cases result with
  | ok value => exact h value rfl
  | error error => exact .done (herror error rfl)

theorem fares_draw {f : Draw → Call β} (h : ∀ drawn, (f drawn).Fares Ends books changes) :
    (draw >>= f).Fares Ends books changes :=
  .draw h

/-- Reading an account that is there. -/
theorem fares_account {row : Account} {f : Account → Call β}
    (hrow : (books.overlay changes).account? id = some row)
    (h : (f row).Fares Ends books changes) :
    (Store.account .callers ⟨id, true⟩ >>= f).Fares Ends books changes := by
  refine .exec rfl (fun _ => ⟨_, rfl⟩) fun around effect he => ?_
  cases he
  rw [hrow, Books.overlay_empty]
  exact h

/-- Setting the balance of an account that there is. -/
theorem fares_setBalance {balance : Balance} {f : Account → Call β}
    (hexist : (books.account? id).isSome = true) (hnonneg : 0 ≤ balance.value)
    (h : ∀ row changes, row.balance = balance.value → row.id = id →
      (f row).Fares Ends books changes) :
    (Store.setBalance .callers id balance >>= f).Fares Ends books changes := by
  obtain ⟨row, hrow⟩ := Option.isSome_iff_exists.mp (Books.isSome_overlay changes hexist)
  have heffect : ∀ around, Statement.effect around (books.overlay changes)
      (.updateAccount id balance) =
        .ok ⟨[{ row with balance := balance.value, updatedAt := around.now }],
          ⟨[{ row with balance := balance.value, updatedAt := around.now }], []⟩⟩ := by
    intro around
    simp only [Statement.effect, hrow, if_neg (Int.not_lt.mpr hnonneg)]
  refine .exec rfl (fun around => ⟨_, heffect around⟩) fun around effect he => ?_
  cases (heffect around).symm.trans he
  have hid : row.id = id := Books.id_of_account? hrow
  exact h _ _ rfl hid

/-- Writing an entry about an account that there is. -/
theorem fares_record {entry : NewEntry} {f : Entry → Call β}
    (hexist : (books.account? entry.account).isSome = true)
    (hnonneg : 0 ≤ entry.balanceAfter.value)
    (h : ∀ row changes, (f row).Fares Ends books changes) :
    (Store.record .callers entry >>= f).Fares Ends books changes := by
  have hpresent : ¬ ((books.overlay changes).account? entry.account).isNone = true := by
    rw [← Option.not_isSome, Books.isSome_overlay changes hexist]
    exact Bool.false_ne_true
  refine .exec rfl (fun around => ?_) fun around effect he => ?_
  · simp only [Statement.effect, Statement.newEntry, if_neg (Int.not_le.mpr entry.amount.value_pos),
      if_neg (Int.not_lt.mpr hnonneg), if_neg hpresent]
    exact ⟨_, rfl⟩
  · obtain ⟨row, -, rfl⟩ := Statement.of_insertEntry he
    exact h row _

end Call

namespace Transfer

open Call

/-- The command makes sense, both its rows are there with balances that an account may have, and the
receiver can take the amount. -/
structure Ready (command : Command) (books : Books) : Prop where
  differ : command.source ≠ command.target
  positive : 0 < command.amount
  sender : ∃ row, books.account? command.source = some row ∧
    0 ≤ row.balance ∧ row.balance ≤ maxMoney
  receiver : ∃ row, books.account? command.target = some row ∧
    0 ≤ row.balance ∧ row.balance + command.amount ≤ maxMoney

/-- What a transfer comes to on the books: the debit entry if the sender can pay, and otherwise the
failure that says what there is to pay with. -/
def Concludes (command : Command) (books : Books) : Except Failure Entry → Prop
  | .ok _ => True
  | .error failure => ∃ row, books.account? command.source = some row ∧
      row.balance < command.amount ∧
      failure = .ledger (.insufficientBalance command.amount row.balance)

variable {Ends : Except Failure Entry → Prop} {books changes : Books} {sender receiver : Account}
  {amount : Amount} {transfer : Uuid}

theorem ofInt_ok (value : Int) (h : 0 ≤ value) (hle : value ≤ maxMoney) :
    ∃ balance : Balance, Balance.ofInt value = .ok balance ∧ balance.value = value :=
  ⟨⟨value, Int.le_trans (by decide) h, hle⟩, Balance.ofInt_eq_ok_iff.mpr ⟨h, rfl⟩, rfl⟩

/-- The balances after a transfer that can be paid. -/
theorem balancesAfter_of_covers (hsender : 0 ≤ sender.balance) (hle : sender.balance ≤ maxMoney)
    (hreceiver : 0 ≤ receiver.balance) (hroom : receiver.balance + amount.value ≤ maxMoney)
    (hpays : amount.value ≤ sender.balance) : ∃ debited credited,
      balancesAfter sender receiver amount = .ok (debited, credited) := by
  have hpos := amount.value_pos
  obtain ⟨paying, hpaying, hvalue⟩ := ofInt_ok _ hsender hle
  obtain ⟨paid, hpaid, hvalue'⟩ := ofInt_ok receiver.balance hreceiver (by omega)
  obtain ⟨debited, hdebited, -⟩ :=
    ofInt_ok (paying.value - amount.value) (by omega) (by omega)
  obtain ⟨credited, hcredited, -⟩ :=
    ofInt_ok (paid.value + amount.value) (by omega) (by omega)
  refine ⟨debited, credited, ?_⟩
  have hcovers : paying.covers amount = true := decide_eq_true (by omega)
  rw [balancesAfter, Account.currentBalance, hpaying, Account.currentBalance, hpaid]
  simp only [Except.mapError, bind, Except.bind, hcovers, Bool.true_eq_false, if_false,
    Balance.debit, Balance.credit, hdebited, hcredited]
  rfl

/-- A transfer that cannot be paid says what there is to pay with. -/
theorem balancesAfter_of_not_covers (hsender : 0 ≤ sender.balance) (hle : sender.balance ≤ maxMoney)
    (hshort : sender.balance < amount.value) :
    balancesAfter sender receiver amount =
      .error (.ledger (.insufficientBalance amount.value sender.balance)) := by
  obtain ⟨paying, hpaying, hvalue⟩ := ofInt_ok _ hsender hle
  have hcovers : paying.covers amount = false := decide_eq_false (by omega)
  rw [balancesAfter, Account.currentBalance, hpaying]
  simp only [Except.mapError, hvalue, bind, Except.bind, if_pos hcovers]
  rfl

theorem fares_post {side : Side} {id : Int} {balance : Balance} {β : Type} {f : Entry → Call β}
    {Ends : Except Failure β → Prop} (hexist : (books.account? id).isSome = true)
    (hnonneg : 0 ≤ balance.value) (h : ∀ entry changes, (f entry).Fares Ends books changes) :
    (post side transfer id balance amount >>= f).Fares Ends books changes := by
  unfold post
  simp only [bind_assoc]
  refine fares_setBalance hexist hnonneg fun row changes hbalance hid => ?_
  have hentry : NewEntry.ofAccount side transfer row amount =
      .ok ⟨transfer, id, amount, balance, side⟩ := by
    rw [NewEntry.ofAccount, NewEntry.ofBalance,
      Balance.ofInt_eq_ok_iff.mpr ⟨by omega, hbalance.symm⟩, hid]
    rfl
  refine fares_ofExcept (fun entry he => ?_) fun error he => ?_
  · cases hentry.symm.trans he
    exact fares_record hexist hnonneg h
  · cases hentry.symm.trans he

/-- A transfer that is ready succeeds if the sender can pay, and fails with what there is to pay with
if not. -/
theorem fares_perform {command : Command} (h : Ready command books) :
    (perform command).Fares (Concludes command books) books .empty := by
  obtain ⟨sender, hsender, hnonneg, hle⟩ := h.sender
  obtain ⟨receiver, hreceiver, hnonneg', hroom⟩ := h.receiver
  have hsource : sender.id = command.source := Books.id_of_account? hsender
  have htarget : receiver.id = command.target := Books.id_of_account? hreceiver
  have hpos := h.positive
  obtain ⟨amount, hamount⟩ : ∃ amount : Amount, amount.value = command.amount :=
    ⟨⟨command.amount, hpos, by omega⟩, rfl⟩
  have hvalid : command.validate = .ok amount := by
    rw [Command.validate, if_neg h.differ, Amount.ofInt_eq_ok_iff.mpr hamount]
    rfl
  have hposts : ∀ transfer, (postBoth transfer sender receiver amount).Fares
      (Concludes command books) books .empty := by
    intro transfer
    unfold postBoth
    refine fares_ofExcept (fun balances hbalances => ?_) fun failure hfailure => ?_
    · obtain ⟨-, hdebited, -, hcredited⟩ := balancesAfter_ok hbalances
      refine fares_post (by rw [hsource, hsender]; rfl) hdebited fun debit changes => ?_
      exact fares_post (by rw [htarget, hreceiver]; rfl) hcredited fun _ _ => .done trivial
    · by_cases hpays : amount.value ≤ sender.balance
      · obtain ⟨debited, credited, hok⟩ := balancesAfter_of_covers hnonneg hle
          hnonneg' (by omega) hpays
        cases hok.symm.trans hfailure
      · cases (balancesAfter_of_not_covers hnonneg hle (by omega)).symm.trans hfailure
        exact ⟨sender, hsender, by omega, by rw [hamount]; rfl⟩
  have hread : ∀ {id : Int} {row : Account}, books.account? id = some row →
      (books.overlay .empty).account? id = some row := by
    intro id row hrow
    rw [Books.overlay_empty, hrow]
  unfold perform
  refine fares_ofExcept (fun sum hsum => ?_) fun error he => ?_
  · cases hvalid.symm.trans hsum
    refine fares_draw fun drawn => ?_
    cases horder : lockOrder command.source command.target with | mk low high
    rcases eq_of_lockOrder horder with ⟨rfl, rfl⟩ | ⟨rfl, rfl⟩
    · refine fares_account (hread hsender) (fares_account (hread hreceiver) ?_)
      rw [resolveRoles, if_pos hsource]
      exact hposts _
    · refine fares_account (hread hreceiver) (fares_account (hread hsender) ?_)
      rw [resolveRoles, if_neg (by rw [htarget]; exact Ne.symm h.differ)]
      exact hposts _
  · cases hvalid.symm.trans he

end Transfer

end Passbook
