import Passbook.Database.Statement
import Passbook.Draw

/-! # Effects of statements

What a statement about rows does, as a function of the books that it sees: the row it must lock, the
rows it is answered with and the changes it makes, or the refusal because of a constraint of the
schema. The constraints of a row are checked in a fixed order, and the first one that is violated is
the one reported. That the identifier of an entry is free is not checked: it is drawn at random. -/

namespace Passbook

namespace Rejection

/-- A row for which the named condition on its table does not hold. -/
def check (table name : String) : Rejection :=
  ⟨"23514", s!"new row for relation \"{table}\" violates check constraint \"{name}\"", some name⟩

/-- A row whose value is taken already. -/
def unique (name : String) : Rejection :=
  ⟨uniqueViolation, s!"duplicate key value violates unique constraint \"{name}\"", some name⟩

/-- A row that refers to one that is not there. -/
def reference (table name : String) : Rejection :=
  ⟨"23503", s!"insert or update on table \"{table}\" violates foreign key constraint \"{name}\"",
    some name⟩

/-- Account numbers are unique. -/
def accountIdTaken : Rejection := unique "accounts_pkey"

/-- A user has one account of each kind. -/
def accountKindTaken : Rejection := unique "accounts_user_id_type_unique"

end Rejection

/-- What the rows and changes depend on apart from the books: the users and tables that exist, the
time of the transaction, and what is drawn next. -/
structure Surroundings where
  users : List Uuid
  tables : List String
  now : Instant
  serial : Nat
  draws : Draws

/-- The rows that a statement is answered with and the changes that it makes. -/
structure Effect (statement : Statement) where
  rows : List statement.Row
  changes : Books := .empty

namespace Statement

/-- The number of the account whose row lock the statement takes. Only a published row has a lock:
nobody else can see one that its transaction has added. -/
def lockedAccount? (published : Books) : Statement → Option Int
  | selectAccount lookup =>
    if lookup.locking then (published.account? lookup.id).map (·.id) else none
  | updateAccount id _ => (published.account? id).map (·.id)
  | _ => none

/-- The new row of an account, if the schema admits it. -/
def newAccount (around : Surroundings) (view : Books) (id : Int) (owner : Uuid)
    (kind : AccountKind) : Except Rejection Account :=
  if AccountId.isValid id = false then .error (.check "accounts" "accounts_id_check")
  else if (view.account? id).isSome then .error .accountIdTaken
  else if view.accounts.any fun row => row.owner == owner && row.kind == kind then
    .error .accountKindTaken
  else if owner ∉ around.users then .error (.reference "accounts" "accounts_user_id_fkey")
  else .ok {
    id, owner, kind
    balance := 0
    createdAt := around.now
    updatedAt := around.now }

/-- The row of an entry, if the schema admits it. -/
def newEntry (around : Surroundings) (view : Books) (entry : NewEntry) : Except Rejection Entry :=
  if entry.amount.value ≤ 0 then .error (.check "transactions" "transactions_amount_check")
  else if entry.balanceAfter.value < 0 then
    .error (.check "transactions" "transactions_balance_after_check")
  else if (view.account? entry.account).isNone then
    .error (.reference "transactions" "transactions_account_id_fkey")
  else .ok {
    id := around.draws.uuid around.serial
    transfer := entry.transfer
    account := entry.account
    amount := entry.amount.value
    balanceAfter := entry.balanceAfter.value
    side := entry.side
    createdAt := around.now }

/-- The effect of a statement on the books that it sees. -/
def effect (around : Surroundings) (view : Books) :
    (statement : Statement) → Except Rejection (Effect statement)
  | selectAccount lookup => .ok ⟨(view.account? lookup.id).toList, .empty⟩
  | updateAccount id balance =>
    match view.account? id with
    | none => .ok ⟨[], .empty⟩
    | some row =>
      if balance.value < 0 then .error (.check "accounts" "accounts_balance_check")
      else
        let row := { row with balance := balance.value, updatedAt := around.now }
        .ok ⟨[row], ⟨[row], []⟩⟩
  | insertAccount id owner kind =>
    (newAccount around view id owner kind).map fun row => ⟨[row], ⟨[row], []⟩⟩
  | selectAccountsOf owner => .ok ⟨view.accountsOf owner, .empty⟩
  | insertEntry entry => (newEntry around view entry).map fun row => ⟨[row], ⟨[], [row]⟩⟩
  | selectEntriesOf account => .ok ⟨view.entriesOf account, .empty⟩
  | tableExists table => .ok ⟨[around.tables.contains table], .empty⟩
  | selectOne => .ok ⟨[()], .empty⟩
  | begin | setLockTimeout _ | commit | rollback => .ok ⟨[], .empty⟩

end Statement

end Passbook
