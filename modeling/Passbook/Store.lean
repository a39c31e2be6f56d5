import Passbook.Transfer.Command
import Passbook.Work

/-! # Store

The calls on accounts and entries. Each is one statement and a reading of its answer, done at the
place that the caller names. A row that is not found is a failure of the ledger, not of storage; so
is an account whose number or kind is taken. -/

namespace Passbook.Store

/-- Reads an account, with its row locked if the lookup says so. -/
def account (place : Place) (lookup : AccountLookup) : Call Account :=
  place.run do
    Call.first (← Call.ask (.selectAccount lookup)) (.accountNotFound lookup.id)

/-- Sets the balance of an account and gives back its new row. -/
def setBalance (place : Place) (id : Int) (balance : Balance) : Call Account :=
  place.run do
    Call.first (← Call.ask (.updateAccount id balance)) (.accountNotFound id)

/-- The failure of the creation of an account. -/
def creationFailure (id : Int) (owner : Uuid) (kind : AccountKind) : StorageError → Failure
  | .rejected rejection =>
    if rejection.code = Rejection.uniqueViolation then
      match rejection.violated with
      | some "accounts_user_id_type_unique" => .ledger (.duplicateAccountKind owner kind.text)
      | some "accounts_pkey" => .ledger (.duplicateAccountId id)
      | _ => .storage (.rejected rejection)
    else .storage (.rejected rejection)
  | error => .storage error

/-- Creates an account with the given number. -/
def createAccount (place : Place) (id : Int) (owner : Uuid) (kind : AccountKind) : Call Account :=
  place.run <| ExceptT.mk <| .exec (.insertAccount id owner kind) fun
    | .ok (row :: _) => .done (.ok row)
    | .ok [] => .done (.error (.storage .rowNotFound))
    | .error error => .done (.error (creationFailure id owner kind error))

/-- Creates an account with a number drawn for it. -/
def openAccount (place : Place) (owner : Uuid) (kind : AccountKind) : Call Account := do
  let { account := id, .. } ← Call.draw
  createAccount place id owner kind

/-- The accounts of a user, oldest first. -/
def accountsOf (place : Place) (owner : Uuid) : Call (List Account) :=
  place.run (Call.ask (.selectAccountsOf owner))

/-- Writes an entry and gives it back with its identifier and time. -/
def record (place : Place) (entry : NewEntry) : Call Entry :=
  place.run do
    Call.first (← Call.ask (.insertEntry entry)) (.storage .rowNotFound)

/-- The entries of an account, oldest first. -/
def entriesOf (place : Place) (id : Int) : Call (List Entry) :=
  place.run (Call.ask (.selectEntriesOf id))

/-- The tables that the ledger needs. -/
def requiredTables : List String := ["users", "accounts", "transactions"]

/-- Whether all the given tables exist. It stops at the first that does not. -/
def haveTables : List String → Call Bool
  | [] => pure true
  | table :: tables => do
    let row ← Place.pooled.run do
      Call.first (← Call.ask (.tableExists table)) (.storage .rowNotFound)
    if row then haveTables tables else pure false

/-- Whether the database has the tables that the ledger needs. -/
def checkSchema : Call Bool := haveTables requiredTables

/-- Asks the database for an answer to see that it can be reached. -/
def verifyConnection : Call Unit :=
  Place.pooled.run do
    let _ ← Call.ask .selectOne

end Passbook.Store
