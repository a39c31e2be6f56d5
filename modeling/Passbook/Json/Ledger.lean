import Passbook.Json.Record
import Passbook.Transfer.Command

/-! # The ledger as JSON

The JSON text of amounts, balances, accounts, entries and commands: readers, and writers that give
the fields in the order of the columns without blanks. A balance that is read is not checked, as a
stored one is not; an amount is. -/

namespace Passbook

open Json

namespace Amount

def reader : Reader Amount := do
  match ofInt (← Reader.integer) with
  | .ok amount => return amount
  | .error error => throw (.mismatch (.money error))

def ofJson (text : String) : Except ReadError Amount := reader.whole text

end Amount

namespace Balance

def reader : Reader Balance := do
  match stored? (← Reader.integer) with
  | some balance => return balance
  | none => throw (.mismatch .other)

def ofJson (text : String) : Except ReadError Balance := reader.whole text

end Balance

def AccountKind.ofJson (text : String) : Except ReadError AccountKind :=
  (Reader.variant AccountKind.text AccountKind.all).whole text

def Side.ofJson (text : String) : Except ReadError Side :=
  (Reader.variant Side.text Side.all).whole text

namespace Json

/-- A text that needs no escape, between quotes. -/
def quote (text : String) : String := "\"" ++ text ++ "\""

/-- The written form of a cell. -/
def Cell.text : Cell → String
  | .integer value => toString value
  | .uuid value => quote value.text
  | .instant value => quote value.text
  | .accountKind value => quote value.text
  | .side value => quote value.text

/-- The written form of a record. -/
def recordText (columns : List Column) (cells : List Cell) : String :=
  let members := (columns.zip cells).map fun (column, cell) => quote column.name ++ ":" ++ cell.text
  "\x7b" ++ ",".intercalate members ++ "\x7d"

/-- Reads a record and makes a value of its cells. -/
def recordAs {α : Type} (columns : List Column) (ofCells? : List Cell → Option α) (text : String) :
    Except ReadError α :=
  (Reader.record columns).whole text >>= fun cells =>
    match ofCells? cells with
    | some value => .ok value
    | none => .error (.mismatch .other)

end Json

def Amount.json (amount : Amount) : String := (Cell.integer amount.value).text

def Balance.json (balance : Balance) : String := (Cell.integer balance.value).text

def AccountKind.json (kind : AccountKind) : String := (Cell.accountKind kind).text

def Side.json (side : Side) : String := (Cell.side side).text

namespace Account

def columns : List Column :=
  [⟨"id", .integer⟩, ⟨"user_id", .uuid⟩, ⟨"balance", .integer⟩, ⟨"type", .accountKind⟩,
    ⟨"created_at", .instant⟩, ⟨"updated_at", .instant⟩]

def cells (account : Account) : List Cell :=
  [.integer account.id, .uuid account.owner, .integer account.balance, .accountKind account.kind,
    .instant account.createdAt, .instant account.updatedAt]

def ofCells? : List Cell → Option Account
  | [.integer id, .uuid owner, .integer balance, .accountKind kind, .instant createdAt,
      .instant updatedAt] => some { id, owner, balance, kind, createdAt, updatedAt }
  | _ => none

def json (account : Account) : String := recordText columns account.cells

def ofJson (text : String) : Except ReadError Account := recordAs columns ofCells? text

theorem ofCells?_cells (account : Account) : ofCells? account.cells = some account := rfl

end Account

namespace Entry

def columns : List Column :=
  [⟨"id", .uuid⟩, ⟨"transfer_id", .uuid⟩, ⟨"account_id", .integer⟩, ⟨"amount", .integer⟩,
    ⟨"balance_after", .integer⟩, ⟨"type", .side⟩, ⟨"created_at", .instant⟩]

def cells (entry : Entry) : List Cell :=
  [.uuid entry.id, .uuid entry.transfer, .integer entry.account, .integer entry.amount,
    .integer entry.balanceAfter, .side entry.side, .instant entry.createdAt]

def ofCells? : List Cell → Option Entry
  | [.uuid id, .uuid transfer, .integer account, .integer amount, .integer balanceAfter,
      .side side, .instant createdAt] =>
    some { id, transfer, account, amount, balanceAfter, side, createdAt }
  | _ => none

def json (entry : Entry) : String := recordText columns entry.cells

def ofJson (text : String) : Except ReadError Entry := recordAs columns ofCells? text

theorem ofCells?_cells (entry : Entry) : ofCells? entry.cells = some entry := rfl

end Entry

namespace Command

def columns : List Column :=
  [⟨"sender_user_id", .uuid⟩, ⟨"from_account_id", .integer⟩, ⟨"to_account_id", .integer⟩,
    ⟨"amount", .integer⟩]

def cells (command : Command) : List Cell :=
  [.uuid command.sender, .integer command.source, .integer command.target,
    .integer command.amount]

def ofCells? : List Cell → Option Command
  | [.uuid sender, .integer source, .integer target, .integer amount] =>
    some { sender, source, target, amount }
  | _ => none

def json (command : Command) : String := recordText columns command.cells

def ofJson (text : String) : Except ReadError Command := recordAs columns ofCells? text

theorem ofCells?_cells (command : Command) : ofCells? command.cells = some command := rfl

end Command

end Passbook
