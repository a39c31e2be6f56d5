import Passbook.Account

/-! # Failures

Everything that can go wrong, as causes, with the wording of each cause beside its type. A
`LedgerError` breaks a rule of the ledger, a `StorageError` comes from the database or from the way
to it, a `SettingsError` from the environment. `Failure` joins them with the ways in which a unit
of work ends badly, and says what a caller may do (`category`, `retryable`) and what an end user may
read (`publicMessage`). -/

namespace Passbook

/-- A rule of the ledger that was broken, or a lookup that found nothing. -/
inductive LedgerError
  | insufficientBalance (required available : Int)
  | invalidAmount (reason : String)
  | accountNotFound (id : Int)
  | sameAccountTransfer
  | balanceOverflow (id : Int)
  | duplicateAccountId (id : Int)
  | duplicateAccountKind (owner : Uuid) (kind : String)
  deriving DecidableEq, Repr

namespace LedgerError

def message : LedgerError → String
  | insufficientBalance required available =>
    s!"Insufficient balance: required {required}, available {available}"
  | invalidAmount reason => s!"Invalid amount: {reason}"
  | accountNotFound id => s!"Account with ID {id} not found"
  | sameAccountTransfer => "Sender and recipient account ids must be different"
  | balanceOverflow id => s!"Balance overflow on account {id}"
  | duplicateAccountId id => s!"Account ID {id} already exists"
  | duplicateAccountKind owner kind => s!"User {owner} already has a {kind} account"

def ofMoney (error : MoneyError) : LedgerError := invalidAmount error.message

end LedgerError

/-- A refusal that the database sends in place of an answer. -/
structure Rejection where
  code : String
  message : String
  violated : Option String
  deriving DecidableEq, Repr

/-- The code of a refusal because a value that must be unique is taken. -/
def Rejection.uniqueViolation : String := "23505"

/-- What can go wrong between the ledger and its database. -/
inductive StorageError
  | rejected (rejection : Rejection)
  | connectionLost
  | poolTimedOut
  | poolClosed
  | rowNotFound
  | workerCrashed
  | unexpectedData (detail : String)
  | columnNotFound (name : String)
  deriving DecidableEq, Repr

/-- The wording of a storage error; that of a lost connection is up to the operating system. -/
def StorageError.message? : StorageError → Option String
  | rejected rejection => some s!"error returned from database: {rejection.message}"
  | connectionLost => none
  | poolTimedOut => some "pool timed out while waiting for an open connection"
  | poolClosed => some "attempted to acquire a connection on a closed pool"
  | rowNotFound => some "no rows returned by a query that expected to return at least one row"
  | workerCrashed => some "attempted to communicate with a crashed background worker"
  | unexpectedData detail => some s!"encountered unexpected or invalid data: {detail}"
  | columnNotFound name => some s!"no column found for name: {name}"

/-- A setting that is missing or cannot be used. -/
inductive SettingsError
  | missing (key : String)
  | invalid (key : String)
  deriving DecidableEq, Repr

def SettingsError.message : SettingsError → String
  | missing key => s!"Missing environment variable: {key}"
  | invalid key => s!"Invalid value for environment variable: {key}"

/-- How an operation of the ledger fails. -/
inductive Failure
  | ledger (error : LedgerError)
  | storage (error : StorageError)
  | timeout (unit : String)
  | commitOutcomeUnknown (unit : String) (error : StorageError)
  | settings (error : SettingsError)
  | internal (reason : String)
  deriving DecidableEq, Repr

/-- Classes of failures that a caller can branch on. -/
inductive Category
  | invalidRequest
  | notFound
  | conflict
  | businessRule
  | unavailable
  | internal
  deriving DecidableEq, Repr

/-- The status code of a response that reports a failure of the class. -/
def Category.status : Category → Nat
  | invalidRequest | businessRule => 400
  | notFound => 404
  | conflict => 409
  | internal => 500
  | unavailable => 503

namespace Failure

def ofMoney (error : MoneyError) : Failure := ledger (.ofMoney error)

/-- The failure of a lookup by number. -/
def accountNotFound (id : Int) : Failure := ledger (.accountNotFound id)

/-- The failure on a row whose balance no account may have. -/
def corruptRow (error : MoneyError) : Failure :=
  internal s!"stored balance violates ledger invariant: {error.message}"

/-- The wording for operators, absent where it is up to the operating system. -/
def message? : Failure → Option String
  | ledger error => some error.message
  | storage error => error.message?.map fun text => s!"Database error: {text}"
  | timeout unit => some s!"Unit of work '{unit}' timed out"
  | commitOutcomeUnknown unit error =>
    error.message?.map fun text =>
      s!"Commit of unit of work '{unit}' failed, outcome unknown: {text}"
  | settings error => some s!"Configuration error: {error.message}"
  | internal reason => some s!"Internal error: {reason}"

def category : Failure → Category
  | ledger (.accountNotFound _) => .notFound
  | ledger (.insufficientBalance ..) | ledger (.balanceOverflow _) => .businessRule
  | ledger (.invalidAmount _) | ledger .sameAccountTransfer => .invalidRequest
  | ledger (.duplicateAccountId _) | ledger (.duplicateAccountKind ..) => .conflict
  | storage _ | timeout _ => .unavailable
  | commitOutcomeUnknown .. | settings _ | internal _ => .internal

/-- Whether the whole operation may be tried again from scratch. -/
def retryable (failure : Failure) : Bool := failure.category = .unavailable

/-- The wording for end users. -/
def publicMessage : Failure → String
  | ledger (.insufficientBalance ..) =>
    "You do not have sufficient balance in your account to perform the transfer"
  | ledger error => error.message
  | storage _ | timeout _ =>
    "We couldn't process your transaction at the moment. Please try again later."
  | commitOutcomeUnknown .. | settings _ | internal _ => "Something went wrong on our side."

end Failure

end Passbook
