import Passbook.Entry
import Passbook.Failure

/-! # Replies

What a caller of the ledger gets back. -/

namespace Passbook

inductive Reply
  | done
  | truth (value : Bool)
  | account (row : Account)
  | created (row : Account)
  | accounts (rows : List Account)
  | entry (row : Entry)
  | entries (rows : List Entry)
  | refused (error : MoneyError)
  | failed (failure : Failure)
  deriving DecidableEq, Repr

namespace Reply

/-- The failure that the reply stands for in a unit of work. -/
def failure? : Reply → Option Failure
  | refused error => some (.ofMoney error)
  | failed failure => some failure
  | _ => none

/-- The number of the account that was opened with it. -/
def opened? : Reply → Option Int
  | created row => some row.id
  | _ => none

/-- The reply to a call with the given result. -/
def ofResult {α : Type} (reply : α → Reply) : Except Failure α → Reply
  | .ok value => reply value
  | .error failure => failed failure

end Reply

end Passbook
