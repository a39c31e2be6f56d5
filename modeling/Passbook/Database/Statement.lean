import Passbook.Database.Books
import Passbook.Failure

/-! # Statements

The statements that the ledger sends to its database, and the rows that each of them is answered
with. `StatementName` is the statement without what it is about. -/

namespace Passbook

inductive Statement
  | begin
  | setLockTimeout (millis : Nat)
  | commit
  | rollback
  | selectAccount (lookup : AccountLookup)
  | updateAccount (id : Int) (balance : Balance)
  | insertAccount (id : Int) (owner : Uuid) (kind : AccountKind)
  | selectAccountsOf (owner : Uuid)
  | insertEntry (entry : NewEntry)
  | selectEntriesOf (account : Int)
  | selectOne
  | tableExists (table : String)
  deriving DecidableEq, Repr

inductive StatementName
  | begin
  | setLockTimeout
  | commit
  | rollback
  | selectAccount
  | selectAccountForUpdate
  | updateAccount
  | insertAccount
  | selectAccountsOf
  | insertEntry
  | selectEntriesOf
  | selectOne
  | tableExists
  deriving DecidableEq, Repr

namespace Statement

def name : Statement → StatementName
  | begin => .begin
  | setLockTimeout _ => .setLockTimeout
  | commit => .commit
  | rollback => .rollback
  | selectAccount lookup => if lookup.locking then .selectAccountForUpdate else .selectAccount
  | updateAccount .. => .updateAccount
  | insertAccount .. => .insertAccount
  | selectAccountsOf _ => .selectAccountsOf
  | insertEntry _ => .insertEntry
  | selectEntriesOf _ => .selectEntriesOf
  | selectOne => .selectOne
  | tableExists _ => .tableExists

/-- The type of the rows that answer a statement. -/
abbrev Row : Statement → Type
  | selectAccount _ | updateAccount .. | insertAccount .. | selectAccountsOf _ => Account
  | insertEntry _ | selectEntriesOf _ => Entry
  | tableExists _ => Bool
  | begin | setLockTimeout _ | commit | rollback | selectOne => Unit

/-- What comes back for a statement. -/
abbrev Answer (statement : Statement) : Type := Except StorageError (List statement.Row)

/-- Whether the statement ends a transaction. -/
def isEnd : Statement → Bool
  | commit | rollback => true
  | _ => false

/-- The rows with the accounts among them changed. -/
def mapAccounts (change : Account → Account) :
    (statement : Statement) → List statement.Row → List statement.Row
  | selectAccount _, rows | updateAccount .., rows | insertAccount .., rows
  | selectAccountsOf _, rows => rows.map change
  | insertEntry _, rows | selectEntriesOf _, rows => rows
  | tableExists _, rows => rows
  | begin, rows | setLockTimeout _, rows | commit, rows | rollback, rows | selectOne, rows => rows

end Statement

end Passbook
