import Passbook.Store
import Passbook.UnitOfWork

/-! # Transfers

A transfer locks both rows in ascending order of their numbers, checks that the sender can pay and
that the receiver can be paid, and only then writes: the sender's row, the debit entry, the
receiver's row, the credit entry. Nothing is written by a transfer that is turned down. -/

namespace Passbook.Transfer

/-- The balances that two accounts have after an amount has moved from one to the other. -/
def balancesAfter (sender receiver : Account) (amount : Amount) :
    Except Failure (Balance × Balance) := do
  let paying ← sender.currentBalance.mapError .corruptRow
  if paying.covers amount = false then
    throw (.ledger (.insufficientBalance amount.value paying.value))
  let debited ← (paying.debit amount).mapError .ofMoney
  let paid ← receiver.currentBalance.mapError .corruptRow
  let credited ← (paid.credit amount).mapError fun _ => .ledger (.balanceOverflow receiver.id)
  return (debited, credited)

/-- Writes one side of a transfer: the account's new balance and the entry about it. -/
def post (side : Side) (transfer : Uuid) (id : Int) (balance : Balance) (amount : Amount) :
    Call Entry := do
  let row ← Store.setBalance .callers id balance
  let entry ← Call.ofExcept .corruptRow (NewEntry.ofAccount side transfer row amount)
  Store.record .callers entry

/-- Writes both sides of a transfer and gives back the debit entry. -/
def postBoth (transfer : Uuid) (sender receiver : Account) (amount : Amount) : Call Entry := do
  let (debited, credited) ← Call.ofExcept id (balancesAfter sender receiver amount)
  let debit ← post .debit transfer sender.id debited amount
  let _ ← post .credit transfer receiver.id credited amount
  return debit

/-- Does the command on the caller's connection, in the caller's transaction. -/
def perform (command : Command) : Call Entry := do
  let amount ← Call.ofExcept .ledger command.validate
  let { uuid := transfer, .. } ← Call.draw
  let (low, high) := lockOrder command.source command.target
  let first ← Store.account .callers (AccountLookup.byId low).forUpdate
  let second ← Store.account .callers (AccountLookup.byId high).forUpdate
  let (sender, receiver) := resolveRoles command.source first second
  postBoth transfer sender receiver amount

/-- The name of the unit of work of a single transfer. -/
def unitName : String := "create_internal_transfer"

/-- Does the command as a unit of work of its own. -/
def execute (runner : Runner) (command : Command) : Call Entry :=
  runner.unit unitName (perform command)

end Passbook.Transfer
