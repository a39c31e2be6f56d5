import Passbook.Text.Digits

/-! # Universally unique identifiers

An identifier of 128 bits. Its own text has lower-case digits in groups of 8, 4, 4, 4 and 12; the
reader also takes upper case, no hyphens at all, braces around the groups, and the form that starts
with `urn:uuid:`, in any case too.

An identifier of version 4 has 122 bits that are free. `Uuid.drawn` counts in them, for those who want
identifiers that come out the same each time. -/

namespace Passbook

structure Uuid where
  bits : BitVec 128
  deriving DecidableEq, Repr

namespace Uuid

open Text

/-- The identifier whose bits are all zero. -/
def nil : Uuid := ⟨0⟩

instance : Inhabited Uuid := ⟨nil⟩

/-- Identifiers in the order of their bits, which is that of their written forms. -/
def le (a b : Uuid) : Bool := a.bits ≤ b.bits

/-- The identifier with the given number as its bits. -/
def ofNat (value : Nat) : Uuid := ⟨BitVec.ofNat 128 value⟩

/-- The version 4 identifier whose free bits hold the given serial number. -/
def drawn (serial : Nat) : Uuid :=
  ofNat ((serial >>> 74 % 1 <<< 48) <<< 80 + 4 <<< 76 + (serial >>> 62 % 1 <<< 12) <<< 64
    + 2 <<< 62 + serial % 1 <<< 62)

/-- The lengths of the groups of digits in the written form. -/
def groups : List Nat := [8, 4, 4, 4, 12]

/-- Cuts a text into groups of the given lengths with a hyphen before each. -/
def hyphenate : List Nat → List Char → List Char
  | [], _ => []
  | n :: lengths, digits => '-' :: digits.take n ++ hyphenate lengths (digits.drop n)

/-- Undoes `hyphenate`, or fails if a hyphen is not where it belongs or the length is wrong. -/
def unhyphenate? : List Nat → List Char → Option (List Char)
  | [], [] => some []
  | n :: lengths, '-' :: text =>
    if n ≤ text.length then
      (unhyphenate? lengths (text.drop n)).map (text.take n ++ ·)
    else none
  | _, _ => none

/-- The characters of the written form. -/
def chars (id : Uuid) : List Char := (hyphenate groups (hexDigits 32 id.bits.toNat)).drop 1

/-- The written form: lower-case digits in hyphenated groups. -/
def text (id : Uuid) : String := String.ofList id.chars

instance : ToString Uuid := ⟨text⟩

/-- Reads 32 digits without hyphens. -/
def ofDigits? (digits : List Char) : Option Uuid :=
  if digits.length = 32 then (Text.ofDigits? 16 hexDigit? 0 digits).map ofNat else none

/-- Reads digits in hyphenated groups. -/
def ofGroups? (chars : List Char) : Option Uuid := (unhyphenate? groups ('-' :: chars)).bind ofDigits?

/-- Reads an identifier in any of its four forms, told apart by their lengths. -/
def ofChars? (chars : List Char) : Option Uuid :=
  match chars.length with
  | 32 => ofDigits? chars
  | 36 => ofGroups? chars
  | 38 =>
    if chars.head? = some '{' ∧ chars.getLast? = some '}' then ofGroups? (chars.drop 1).dropLast
    else none
  | 45 =>
    if (chars.take 9).map Char.toLower = "urn:uuid:".toList then ofGroups? (chars.drop 9) else none
  | _ => none

/-- Reads an identifier from a text. -/
def ofText? (text : String) : Option Uuid := ofChars? text.toList

end Uuid

end Passbook
