import Passbook.Entry
import Passbook.Failure

/-! # Transfer commands

The order to move money between two accounts, the checks made before any row is read, and the two
rules on the pair of accounts: rows are locked in ascending order of their numbers, and rows read in
that order are given back their roles. -/

namespace Passbook

/-- An order to move an amount from the source account to the target account. -/
structure Command where
  sender : Uuid
  source : Int
  target : Int
  amount : Int
  deriving DecidableEq, Repr

namespace Command

/-- The amount to move, if the accounts differ and the amount is positive. -/
def validate (command : Command) : Except LedgerError Amount :=
  if command.source = command.target then .error .sameAccountTransfer
  else (Amount.ofInt command.amount).mapError .ofMoney

end Command

/-- Two account numbers in the order in which their rows are locked. -/
def lockOrder (source target : Int) : Int × Int :=
  if source < target then (source, target) else (target, source)

/-- Rows read in lock order, as sender and receiver. -/
def resolveRoles (source : Int) (first second : Account) : Account × Account :=
  if first.id = source then (first, second) else (second, first)

theorem lockOrder_comm (source target : Int) :
    lockOrder source target = lockOrder target source := by
  unfold lockOrder
  split <;> split <;> simp_all <;> omega

end Passbook
