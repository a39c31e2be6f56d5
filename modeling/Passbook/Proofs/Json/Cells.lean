import Passbook.Json.Ledger
import Passbook.Proofs.Instant
import Passbook.Proofs.Json.Grammar
import Passbook.Proofs.Uuid

/-! # Cells

A text stands for the value of a field if it is of the field's type (`Cell.WrittenAs`): there is one way
to write an integer, while what is quoted may be spelled in many. A field reads its value from any text
that stands for it (`Cell.WrittenAs.read_takes`), and what is written for a value stands for it. All
such texts are well-formed values. -/

namespace Passbook.Json

open Text Reader

variable {text : List Char}

/-! ## Cells -/

/-- The type of the field that a cell is a value of. -/
def Cell.type : Cell → ColumnType
  | .integer _ => .integer
  | .uuid _ => .uuid
  | .instant _ => .instant
  | .accountKind _ => .accountKind
  | .side _ => .side

/-- A field can have this value: integers have 64 bits, instants are told to the nanosecond. -/
def Cell.IsStorable : Cell → Prop
  | .integer value => minMoney ≤ value ∧ value ≤ maxMoney
  | .instant value => value.IsExact
  | _ => True

/-- No instant outside the years 0000 to 9999. -/
def Cell.HasShortYear : Cell → Prop
  | .instant value => value.HasShortYear
  | _ => True

/-- The text stands for the cell. An integer is written in one way; what is quoted may be spelled in
many, and a kind or a side may be an object with its name. -/
inductive Cell.WrittenAs : Cell → List Char → Prop
  | integer {value : Int} : minMoney ≤ value → value ≤ maxMoney →
      WrittenAs (.integer value) (toString value).toList
  | uuid {value : Uuid} {chars text : List Char} : Spells chars text →
      Uuid.ofChars? chars = some value → WrittenAs (.uuid value) ('"' :: (text ++ ['"']))
  | instant {value : Instant} {chars text : List Char} : Spells chars text →
      Instant.ofChars? chars = some value → WrittenAs (.instant value) ('"' :: (text ++ ['"']))
  | accountKind {value : AccountKind} {text : List Char} : Names value.text.toList text →
      WrittenAs (.accountKind value) text
  | side {value : Side} {text : List Char} : Names value.text.toList text →
      WrittenAs (.side value) text

theorem toList_quote (text : String) : (quote text).toList = '"' :: (text.toList ++ ['"']) := by
  simp [quote]

theorem names_quote {text : String} (h : Plain text.toList) :
    Names text.toList (quote text).toList :=
  toList_quote text ▸ .quoted (.of_plain h)

theorem names_accountKind (kind : AccountKind) :
    Names kind.text.toList (quote kind.text).toList :=
  names_quote (by cases kind <;> simp [Plain, AccountKind.text])

theorem names_side (side : Side) : Names side.text.toList (quote side.text).toList :=
  names_quote (by cases side <;> simp [Plain, Side.text])

theorem accountKind_takes_of_names {kind : AccountKind} (h : Names kind.text.toList text) :
    (variant AccountKind.text AccountKind.all).Takes text kind :=
  variant_takes h (by cases kind <;> rfl)

theorem side_takes_of_names {side : Side} (h : Names side.text.toList text) :
    (variant Side.text Side.all).Takes text side :=
  variant_takes h (by cases side <;> rfl)

/-- A field reads a value from any text that stands for it. -/
theorem Cell.WrittenAs.read_takes {cell : Cell} (h : cell.WrittenAs text) :
    cell.type.read.Takes text cell := by
  cases h with
  | integer hlow hhigh => exact (integer_takes hlow hhigh).map _
  | uuid hspells hvalue => exact (quotedAs_takes hspells hvalue).map _
  | instant hspells hvalue => exact (quotedAs_takes hspells hvalue).map _
  | accountKind hnames => exact (accountKind_takes_of_names hnames).map _
  | side hnames => exact (side_takes_of_names hnames).map _

/-- The text that is written for a value stands for it. -/
theorem Cell.writtenAs_text {cell : Cell} (hstorable : cell.IsStorable) (hyear : cell.HasShortYear) :
    cell.WrittenAs cell.text.toList := by
  cases cell with
  | integer value => exact .integer hstorable.1 hstorable.2
  | uuid value =>
    have htext : (quote value.text).toList = '"' :: (value.chars ++ ['"']) := by
      rw [toList_quote, Uuid.text, String.toList_ofList]
    exact htext ▸ .uuid (.of_plain value.plain_chars) value.ofChars?_chars
  | instant value =>
    exact toList_quote value.text ▸
      .instant (.of_plain (Instant.plain_text hyear)) (Instant.ofChars?_text hstorable hyear)
  | accountKind value => exact .accountKind (names_accountKind value)
  | side value => exact .side (names_side value)

theorem accountKind_takes (kind : AccountKind) :
    (variant AccountKind.text AccountKind.all).Takes (quote kind.text).toList kind :=
  accountKind_takes_of_names (names_accountKind kind)

theorem side_takes (side : Side) :
    (variant Side.text Side.all).Takes (quote side.text).toList side :=
  side_takes_of_names (names_side side)

theorem skipsBlanks_read (type : ColumnType) : type.read.SkipsBlanks := by
  cases type with
  | integer => exact skipsBlanks_integer.map _
  | uuid | instant => exact (skipsBlanks_quoted.bind _).map _
  | accountKind | side => exact (skipsBlanks_variant _ _).map _

/-! ## Cells are values -/

theorem isWhole_toDigits (value : Nat) : IsWhole (Nat.toDigits 10 value) := by
  rcases Nat.eq_zero_or_pos value with rfl | hpos
  · exact .zero
  · obtain ⟨c, digits, hdigits, hc⟩ := exists_toDigits_eq_cons hpos
    have hall : ∀ d ∈ c :: digits, d.isDigit = true := by
      rw [← hdigits]
      exact fun _ => isDigit_of_mem_toDigits
    obtain ⟨hfirst, hlater⟩ := List.forall_mem_cons.mp hall
    exact hdigits ▸ .digits hfirst hc hlater

theorem isNumeral_toString (value : Int) : IsNumeral (toString value).toList := by
  rw [toList_toString_int]
  split
  · have hnumeral := IsNumeral.positive (isWhole_toDigits value.toNat) .absent .absent
    simpa using hnumeral
  · have hnumeral := IsNumeral.negative (isWhole_toDigits (-value).toNat) .absent .absent
    simpa using hnumeral

theorem Reader.Names.isJson {name : List Char} (h : Names name text) : IsJson .value text := by
  cases h with
  | quoted hspells => exact .quoted hspells.isText
  | member hbefore hspells hbetween hbetween' hafter =>
    have hnull : IsJson .value "null".toList := .word (by simp [words])
    have hmember := IsJson.nested (.member hbefore hspells.isText hbetween hbetween' hnull hafter)
    simpa [Frame.opening, Skip.closing] using hmember

/-- What stands for a value of a field is a well-formed value. -/
theorem Cell.WrittenAs.isJson {cell : Cell} (h : cell.WrittenAs text) : IsJson .value text := by
  cases h with
  | integer => exact .numeral (isNumeral_toString _)
  | uuid hspells => exact .quoted hspells.isText
  | instant hspells => exact .quoted hspells.isText
  | accountKind hnames => exact hnames.isJson
  | side hnames => exact hnames.isJson

end Passbook.Json
