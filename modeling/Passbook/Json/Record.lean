import Passbook.Entry
import Passbook.Instant.Reader
import Passbook.Json.Numeral
import Passbook.Json.Skip

/-! # Records

A record is read from an object, whose members may come in any order with unknown ones among them,
or from a list of its fields in the order of its columns. What is read for a field is a `Cell`; the
cells of a record stand in the order of its columns, whatever the order in the text. -/

namespace Passbook.Json

/-- The type of a field. -/
inductive ColumnType
  | integer
  | uuid
  | instant
  | accountKind
  | side
  deriving DecidableEq, Repr

structure Column where
  name : String
  type : ColumnType
  deriving DecidableEq, Repr

/-- The value of a field. -/
inductive Cell
  | integer (value : Int)
  | uuid (value : Uuid)
  | instant (value : Instant)
  | accountKind (value : AccountKind)
  | side (value : Side)
  deriving DecidableEq, Repr

namespace Reader

/-- Refuses the value that starts here because of its type. What must be taken to see its type may
show another problem first. -/
def wrongType {α : Type} (start : Char) : Reader α := do
  if start = '[' ∨ start = '\x7b' then pure ()
  else if start = '"' then
    advance
    let _ ← quotedRest
  else if start = '-' ∨ Text.isDigit start then
    let _ ← signedNumeral
  else if start = 'n' then word "null".toList
  else if start = 't' then word "true".toList
  else if start = 'f' then word "false".toList
  else throw .malformed
  throw (.mismatch .other)

/-- An integer of 64 bits. -/
def integer : Reader Int := do
  let start ← peek
  if start = '-' ∨ Text.isDigit start then
    match ← signedNumeral with
    | .integer value => return value
    | .unfit => throw (.mismatch .other)
  else wrongType start

/-- A quoted text. -/
def quoted : Reader (List Char) := do
  let start ← peek
  if start = '"' then
    advance
    quotedRest
  else wrongType start

/-- A quoted text that stands for a value. -/
def quotedAs {α : Type} (ofChars? : List Char → Option α) : Reader α := do
  match ofChars? (← quoted) with
  | some value => return value
  | none => throw (.mismatch .other)

/-- The value with the quoted name. -/
def named {α : Type} (text : α → String) (values : List α) : Reader α := do
  let name := String.ofList (← quoted)
  match values.find? fun value => text value == name with
  | some value => return value
  | none => throw (.mismatch (.unknownVariant name (values.map text)))

/-- The word for no value. -/
def null : Reader Unit := do
  let start ← peek
  if start = 'n' then word "null".toList else wrongType start

/-- One of the given values, by its name or as an object that gives the name no value. What is not
quoted in the place of the name is no key of an object, whatever it starts as. -/
def variant {α : Type} (text : α → String) (values : List α) : Reader α := do
  let start ← peek
  if start = '"' then named text values
  else if start = '\x7b' then
    advance
    if (← peek) ≠ '"' then throw .malformed
    let value ← named text values
    expect ':'
    null
    expect '\x7d'
    return value
  else throw .malformed

end Reader

/-- Reads a field of the given type. -/
def ColumnType.read : ColumnType → Reader Cell
  | integer => Cell.integer <$> Reader.integer
  | uuid => Cell.uuid <$> Reader.quotedAs Uuid.ofChars?
  | instant => Cell.instant <$> Reader.quotedAs Instant.ofChars?
  | accountKind => Cell.accountKind <$> Reader.variant AccountKind.text AccountKind.all
  | side => Cell.side <$> Reader.variant Side.text Side.all

namespace Reader

/-- Moves to the next element of a list, which must have one. -/
def startElement (first : Bool) : Reader Unit := do
  let c ← peek
  if c = ']' then throw (.mismatch .other)
  else if first then return
  else if c = ',' then
    advance
    if (← peek) = ']' then throw .malformed
  else throw .malformed

/-- The fields of a record as the elements of a list that was opened. -/
def elements : (first : Bool) → List Column → Reader (List Cell)
  | _, [] => do
    expect ']'
    return []
  | first, column :: columns => do
    startElement first
    let cell ← column.type.read
    return cell :: (← elements false columns)

/-- Moves to the key of the next member of an object and says whether there is one. -/
def startMember (first : Bool) : Reader Bool := do
  let c ← peek
  if c = '\x7d' then return false
  else if first then
    if c = '"' then return true else throw .malformed
  else if c = ',' then
    advance
    if (← peek) = '"' then return true else throw .malformed
  else throw .malformed

/-- The members of an object that was opened, up to its closing bracket. A member fills the slot of
its column; one of no column is passed over. Each member is longer than one character, so a `fuel`
of the length of the text is never used up. -/
def members (columns : List Column) :
    (fuel : Nat) → (first : Bool) → List (Option Cell) → Reader (List (Option Cell))
  | 0, _, _ => throw .malformed
  | fuel + 1, first, slots => do
    unless ← startMember first do return slots
    let name := String.ofList (← quoted)
    match columns.findIdx? (·.name == name) with
    | none =>
      expect ':'
      skipValue
      members columns fuel false slots
    | some i =>
      if (slots[i]?.join).isSome then throw (.mismatch (.duplicateField name))
      expect ':'
      let cell ← match columns[i]? with
        | some column => column.type.read
        | none => throw .malformed
      members columns fuel false (slots.set i (some cell))

/-- The cells of slots that are all filled; else the first column without one is missing. -/
def filled : List Column → List (Option Cell) → Except ReadError (List Cell)
  | [], _ => .ok []
  | column :: columns, slot :: slots =>
    match slot with
    | some cell => (filled columns slots).map (cell :: ·)
    | none => .error (.mismatch (.missingField column.name))
  | column :: _, [] => .error (.mismatch (.missingField column.name))

/-- A record with the given columns. -/
def record (columns : List Column) : Reader (List Cell) := do
  let start ← peek
  if start = '[' then
    advance
    elements true columns
  else if start = '\x7b' then
    advance
    let slots ← members columns ((← get).length + 1) true (columns.map fun _ => none)
    let cells ← filled columns slots
    expect '\x7d'
    return cells
  else wrongType start

end Reader

end Passbook.Json
