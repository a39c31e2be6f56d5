import Passbook.Proofs.Ledger.Postings
import Passbook.Proofs.Race.Fares
import Passbook.Proofs.System.Living
import Passbook.Proofs.Transfer.Examined
import Passbook.Scenario

/-! # The outcome of a transfer

What is held against a transfer is a matter of the accounts that its transaction sees, and there is an
order in which it is (`Transfer.objection?`). In a transaction that nothing disturbs a transfer fails
with the first objection and changes nothing, or it moves the amount and writes the two entries
(`Transfer.perform_exact`). -/

namespace Passbook

namespace Transfer

variable {command : Command} {view : Books} {sender receiver : Account} {amount : Amount}
  {failure : Failure}

/-- The first thing that is held against a transfer. -/
def objection? (command : Command) (view : Books) : Option Failure :=
  let low := min command.source command.target
  let high := max command.source command.target
  let paying := view.balance command.source
  let paid := view.balance command.target
  if command.source = command.target then some (.ledger .sameAccountTransfer)
  else if command.amount ≤ 0 then some (.ofMoney (.notPositive command.amount))
  else if (view.account? low).isNone then some (.accountNotFound low)
  else if (view.account? high).isNone then some (.accountNotFound high)
  else if paying < 0 then some (.corruptRow (.negative paying))
  else if paying < command.amount then
    some (.ledger (.insufficientBalance command.amount paying))
  else if paid < 0 then some (.corruptRow (.negative paid))
  else if maxMoney < paid + command.amount then some (.ledger (.balanceOverflow command.target))
  else none

theorem lockOrder_eq (source target : Int) :
    lockOrder source target = (min source target, max source target) := by
  unfold lockOrder
  split
  · rw [Int.min_eq_left (by omega), Int.max_eq_right (by omega)]
  · rw [Int.min_eq_right (by omega), Int.max_eq_left (by omega)]

theorem ofInt_negative {value : Int} (h : value < 0) :
    Balance.ofInt value = .error (.negative value) := by
  rw [Balance.ofInt, dif_neg (by omega)]

/-- A sender that owes cannot pay. -/
theorem balancesAfter_of_debtor (h : sender.balance < 0) :
    balancesAfter sender receiver amount =
      .error (.corruptRow (.negative sender.balance)) := by
  rw [balancesAfter, Account.currentBalance, ofInt_negative h]
  rfl

section

variable (hsender : 0 ≤ sender.balance) (hle : sender.balance ≤ maxMoney)
  (hpays : amount.value ≤ sender.balance)
include hsender hle hpays

/-- If the sender can pay, it is the receiver's row that counts. -/
theorem balancesAfter_of_payer : ∃ debited,
    balancesAfter sender receiver amount = do
      let paid ← receiver.currentBalance.mapError .corruptRow
      let credited ← (paid.credit amount).mapError fun _ => .ledger (.balanceOverflow receiver.id)
      return (debited, credited) := by
  have hpos := amount.value_pos
  obtain ⟨paying, hpaying, hvalue⟩ := ofInt_ok _ hsender hle
  obtain ⟨debited, hdebited, -⟩ := ofInt_ok (paying.value - amount.value) (by omega) (by omega)
  have hcovers : paying.covers amount = true := decide_eq_true (by omega)
  refine ⟨debited, ?_⟩
  rw [balancesAfter, Account.currentBalance, hpaying]
  simp only [Except.mapError, bind, Except.bind, hcovers, Bool.true_eq_false, if_false,
    Balance.debit, hdebited]

/-- A receiver that owes cannot be paid. -/
theorem balancesAfter_to_debtor (h : receiver.balance < 0) :
    balancesAfter sender receiver amount =
      .error (.corruptRow (.negative receiver.balance)) := by
  obtain ⟨debited, hbalances⟩ := @balancesAfter_of_payer _ receiver _ hsender hle hpays
  rw [hbalances, Account.currentBalance, ofInt_negative h]
  rfl

/-- A receiver that has no room for the amount cannot be paid. -/
theorem balancesAfter_to_full (h : 0 ≤ receiver.balance) (hle' : receiver.balance ≤ maxMoney)
    (hfull : maxMoney < receiver.balance + amount.value) :
    balancesAfter sender receiver amount = .error (.ledger (.balanceOverflow receiver.id)) := by
  obtain ⟨debited, hbalances⟩ := @balancesAfter_of_payer _ receiver _ hsender hle hpays
  obtain ⟨paid, hpaid, hvalue⟩ := ofInt_ok _ h hle'
  have hpos := amount.value_pos
  have hcredit : paid.credit amount = .error .overflow := by
    rw [Balance.credit, Balance.ofInt, dif_pos (by omega), dif_neg (by omega)]
  rw [hbalances, Account.currentBalance, hpaid]
  simp only [Except.mapError, bind, Except.bind, hcredit]

end

/-- The examination finds the first objection, if there is one. -/
theorem examine_objection (hamount : command.amount ≤ maxMoney)
    (hrange : ∀ row ∈ view.accounts, row.balance ≤ maxMoney) :
    match objection? command view with
    | some failure => examine command view = .error failure
    | none => ∃ sender receiver, view.account? command.source = some sender ∧
        view.account? command.target = some receiver ∧
        examine command view = .ok (sender, receiver) := by
  unfold objection?
  dsimp only
  by_cases hsame : command.source = command.target
  · rw [if_pos hsame, examine, Command.validate, if_pos hsame]
    rfl
  rw [if_neg hsame]
  by_cases hnone : command.amount ≤ 0
  · rw [if_pos hnone, examine, Command.validate, if_neg hsame, Amount.ofInt, dif_neg (by omega)]
    rfl
  rw [if_neg hnone]
  obtain ⟨amount, hvalue⟩ : ∃ amount : Amount, amount.value = command.amount :=
    ⟨⟨command.amount, by omega, hamount⟩, rfl⟩
  have hvalid : command.validate = .ok amount := by
    rw [Command.validate, if_neg hsame, Amount.ofInt_eq_ok_iff.mpr hvalue]
    rfl
  cases hlow : view.account? (min command.source command.target) with
  | none =>
    simp only [Option.isNone_none, if_true, examine, hvalid, lockOrder_eq, hlow]
    rfl
  | some first =>
  cases hhigh : view.account? (max command.source command.target) with
  | none =>
    simp only [Option.isNone_some, Option.isNone_none, if_true, examine, hvalid, lockOrder_eq, hlow,
      hhigh]
    rfl
  | some second =>
  cases hroles : resolveRoles command.source first second with
  | mk sender receiver =>
  obtain ⟨hsender, hreceiver⟩ := of_resolveRoles (lockOrder_eq ..) hsame hlow hhigh hroles
  have hle := hrange sender (List.mem_of_find?_eq_some hsender)
  have hle' := hrange receiver (List.mem_of_find?_eq_some hreceiver)
  rw [Books.balance_of_account? hsender, Books.balance_of_account? hreceiver,
    examine_of_rows hvalid hsender hreceiver, ← hvalue]
  simp only [Option.isNone_some, Bool.false_eq_true, if_false]
  by_cases howes : sender.balance < 0
  · rw [if_pos howes, balancesAfter_of_debtor howes]
    rfl
  rw [if_neg howes]
  by_cases hshort : sender.balance < amount.value
  · rw [if_pos hshort, balancesAfter_of_not_covers (by omega) hle hshort]
    rfl
  rw [if_neg hshort]
  by_cases howes' : receiver.balance < 0
  · rw [if_pos howes', balancesAfter_to_debtor (by omega) hle (by omega) howes']
    rfl
  rw [if_neg howes']
  by_cases hfull : maxMoney < receiver.balance + amount.value
  · rw [if_pos hfull, balancesAfter_to_full (by omega) hle (by omega) (by omega) hle' hfull,
      Books.id_of_account? hreceiver]
    rfl
  rw [if_neg hfull]
  obtain ⟨debited, credited, hok⟩ :=
    @balancesAfter_of_covers sender receiver amount (by omega) hle (by omega) (by omega) (by omega)
  rw [hok]
  exact ⟨sender, receiver, hsender, hreceiver, rfl⟩

/-! ## In an open transaction -/

open Database

variable {db : Database} {capacity connection : Nat} {past past' : Past} {system after : System}
  {task : Task} {transaction : Transaction} {page : Page}

/-- The page after a transfer. -/
def leaves (command : Command) (page : Page) (asked : List Statement) : Page :=
  { page with
    view := (outcome command page).2.1
    around.serial := (outcome command page).2.2
    asked := page.asked ++ asked }

/-- In a transaction that has both rows to itself, a transfer comes to its outcome. -/
theorem attains_perform {desk : Desk} (hhands : desk.hands.head? = some connection)
    (hshows : desk.db.Shows connection page) (htold : page.told = desk.told)
    (hasked : page.asked = []) (hopen : page.aborted = false)
    (hfree : ∀ id, id = command.source ∨ id = command.target →
      desk.db.lockable connection id = true) :
    (Call.replying .entry (perform command)).Attains (desk.db.Beside connection)
      (fun desk' reply => reply = .ofResult .entry (outcome command page).1 ∧
        desk.db.Beside connection desk'.db ∧
        ∃ asked, desk'.db.Shows connection (leaves command page asked)) desk := by
  obtain ⟨asked, hconfined, hinside⟩ := inside_perform command hopen
  refine Work.attains_inside (isInner_perform command) hhands hshows htold ?_ (fun _ => id) ?_
  · intro statement hmem account hlocked
    rw [hinside, hasked] at hmem
    exact hfree account (hconfined statement hmem _ account hlocked)
  · intro db hbeside hshown
    rw [hinside] at hshown ⊢
    have hlater := fun clock => hbeside.trans (.drift connection db clock db.serial)
    exact Work.attains_done hlater fun clock => ⟨rfl, hlater clock, asked, hshown.later clock⟩

/-- What there is when a transfer has been done in a transaction that began at the given time. -/
structure Concluded (command : Command) (connection : Nat) (began : Instant)
    (system after : System) (reply : Option Reply) : Prop where
  committed : after.db.books = system.db.books
  stillOpen : ∃ transaction, after.db.transaction? connection = some transaction ∧
    transaction.aborted = false ∧ transaction.began = began
  objected : ∀ failure, objection? command (system.db.view connection) = some failure →
    reply = some (.failed failure) ∧ after.db.view connection = system.db.view connection
  moved : objection? command (system.db.view connection) = none → ∃ sender receiver,
    (system.db.view connection).account? command.source = some sender ∧
    (system.db.view connection).account? command.target = some receiver ∧
    reply = some (.entry (debit command sender system.db.draws system.db.serial began)) ∧
    after.db.view connection =
      (system.db.view connection).overlay
        (changes command sender receiver system.db.draws system.db.serial began)

/-- In an open transaction that nobody disturbs and that has to wait for no lock, a transfer is done,
and it fails with the first objection and changes nothing, or it moves the amount and writes the two
entries. -/
theorem perform_exact (hrest : db.AtRest) (hrun : Run (.start db capacity) past system)
    (hfaults : system.faults = []) (hidle : system.isIdle connection = true)
    (htransaction : system.db.transaction? connection = some transaction)
    (hopen : transaction.aborted = false)
    (hfree : ∀ id, id = command.source ∨ id = command.target →
      system.db.lockable connection id = true)
    (hamount : command.amount ≤ maxMoney)
    (hrange : ∀ row ∈ (system.db.view connection).accounts, row.balance ≤ maxMoney) :
    (∃ past' after task,
      system.Serves [connection] (Call.replying .entry (perform command)) past' after task) ∧
    ∀ past' after task,
      system.Serves [connection] (Call.replying .entry (perform command)) past' after task →
      Concluded command connection transaction.began system after task.reply := by
  have horderly := hrun.orderly (System.orderly_start hrest capacity)
  have hshows := (hrun.lives hrest).shows htransaction
  have hunaborted : (system.db.openPage connection).aborted = false := by
    simp [openPage, htransaction, hopen]
  have hattains := @attains_perform command connection _ (system.desk [connection] []) rfl hshows rfl
    rfl hunaborted hfree
  refine ⟨System.exists_serves horderly hfaults (List.nodup_singleton connection) ?_ hattains, ?_⟩
  · simpa using hidle
  intro past' after task hserves
  obtain ⟨reply, hreply, rfl, hbeside, asked, hshown⟩ :=
    (hserves.attained horderly hfaults (.refl connection system.db) hattains).ends
  change after.db.Shows connection _ at hshown
  have hnow : (system.db.openPage connection).around.now = transaction.began := by
    simp [openPage, surroundings, htransaction]
  have hview := hshown.view
  have hexamine := examine_objection hamount hrange
  refine ⟨hbeside.books, ?_, fun failure hfailure => ?_, fun hnone => ?_⟩
  · obtain ⟨transaction', ht', -, haborted⟩ := hshown.transaction
    have hbegan := congrArg Surroundings.now hshown.around
    rw [surroundings, ht', leaves] at hbegan
    exact ⟨transaction', ht', haborted.trans hunaborted, hbegan.trans hnow⟩
  · rw [hfailure] at hexamine
    have houtcome := @outcome_of_error _ (system.db.openPage connection) _ hexamine
    rw [leaves, houtcome] at hview
    rw [hreply, houtcome]
    exact ⟨rfl, hview⟩
  · rw [hnone] at hexamine
    obtain ⟨sender, receiver, hsender, hreceiver, hexamine⟩ := hexamine
    have houtcome := @outcome_of_ok _ (system.db.openPage connection) _ _ hexamine
    rw [leaves, houtcome, hnow] at hview
    rw [hreply, houtcome, hnow]
    exact ⟨sender, receiver, hsender, hreceiver, rfl, hview⟩

/-- A transaction that is opened on the first connection. -/
def openingEvents : List Event :=
  [.spawn [] none (Scenario.opening none), .move (.connect 0), .tick ⟨5, 0⟩, .move (.send 0)]

/-- A transfer whose target row is locked before that of its source. -/
theorem perform_exact_upward : ∃ past system, Run (.start pairLedger 1) past system ∧
    (∃ past' after task, system.Serves [0]
      (Call.replying .entry (perform ⟨.nil, 1000000002, 1000000001, 4⟩)) past' after task) ∧
    ∀ past' after task, system.Serves [0]
      (Call.replying .entry (perform ⟨.nil, 1000000002, 1000000001, 4⟩)) past' after task →
        after.db.books = pairLedger.books ∧
        (after.db.view 0).accounts.map (fun row => (row.id, row.balance)) =
          [(1000000001, 54), (1000000002, 6)] := by
  have htrace : (System.start pairLedger 1).traces openingEvents
      (fun past system => system.faults.isEmpty ∧ system.isIdle 0 = true ∧
        (system.db.transaction? 0).any (fun transaction => !transaction.aborted) = true ∧
        system.db.lockable 0 1000000001 = true ∧ system.db.lockable 0 1000000002 = true ∧
        system.db.view 0 = pairLedger.books ∧ system.db.books = pairLedger.books) = true := rfl
  obtain ⟨past, system, htrace, hend⟩ := System.exists_of_traces htrace
  obtain ⟨hfaults, hidle, hopen, hsource, htarget, hview, hbooks⟩ := of_decide_eq_true hend
  obtain ⟨transaction, htransaction, hopen⟩ := (Option.any_eq_true ..).mp hopen
  obtain ⟨hserves, hconcluded⟩ := @perform_exact ⟨.nil, 1000000002, 1000000001, 4⟩ pairLedger 1 0 past
    system transaction ⟨rfl, rfl⟩ (System.run_of_trace? htrace) (List.isEmpty_iff.mp hfaults) hidle
    htransaction (by simpa using hopen) (by rintro id (rfl | rfl) <;> assumption) (by decide)
    (by rw [hview]; decide)
  refine ⟨past, system, System.run_of_trace? htrace, hserves, fun past' after task hdone => ?_⟩
  obtain ⟨hcommitted, -, -, hmoved⟩ := hconcluded past' after task hdone
  rw [hview] at hmoved
  obtain ⟨sender, receiver, hsender, hreceiver, -, hafter⟩ := hmoved (by decide)
  cases hsender
  cases hreceiver
  exact ⟨hcommitted.trans hbooks, by rw [hafter]; rfl⟩

end Transfer

end Passbook
