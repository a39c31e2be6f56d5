import Passbook.Json.Reader
import Passbook.Text.Digits

/-! # Numerals

A numeral stands for an integer of 64 bits, or it is one that no integer field takes: it has a
fraction or an exponent, it is a negative zero, or it is out of range. A numeral too large for a
double is not JSON here, which needs the exact rule for when a product of two doubles is infinite:
`isInfinite` states it on natural numbers. -/

namespace Passbook.Json

open Text

/-- What a numeral stands for. -/
inductive Numeral
  | integer (value : Int)
  | unfit
  deriving DecidableEq, Repr

/-- The greatest value that digits may build up while they are still all kept. -/
def maxKept : Nat := 18446744073709551615

/-- A number rounded to 53 binary digits, a half to the even neighbour. -/
def roundTo53 (value : Nat) : Nat :=
  let unit := 1 <<< ((value.log2 + 1) - 53)
  let low := value / unit
  let excess := 2 * (value % unit)
  if excess > unit ∨ (excess = unit ∧ low % 2 = 1) then (low + 1) * unit else low * unit

/-- Whether the double nearest to the product of the doubles nearest to two numbers is infinite. -/
def isInfinite (a b : Nat) : Bool := 1 <<< 1024 - 1 <<< 970 ≤ roundTo53 a * roundTo53 b

/-- Whether the kept digits scaled by a power of ten are too large for a double. -/
def isTooLarge (kept : Nat) (exponent : Int) : Bool :=
  0 ≤ exponent && kept != 0 && (308 < exponent || isInfinite kept (Nat.pow 10 exponent.toNat))

/-- Keeps digits as long as their value stays within `maxKept`. The result has the value, how many
digits were kept, and the text after them. -/
def keepDigits (value : Nat) : List Char → Nat × Nat × List Char
  | [] => (value, 0, [])
  | c :: rest =>
    match digit? c with
    | some d =>
      if 10 * value + d ≤ maxKept then
        let (kept, count, rest) := keepDigits (10 * value + d) rest
        (kept, count + 1, rest)
      else (value, 0, c :: rest)
    | none => (value, 0, c :: rest)

def startsWithDigit (text : List Char) : Bool := text.head?.any isDigit

/-- A numeral with a fraction or an exponent. -/
def scaled (kept : Nat) (exponent : Int) (rest : List Char) :
    Except ReadError (Numeral × List Char) :=
  if isTooLarge kept exponent then .error .malformed else .ok (.unfit, rest)

/-- The text after the letter that starts an exponent. -/
def exponentPart (kept : Nat) (exponent : Int) (text : List Char) :
    Except ReadError (Numeral × List Char) :=
  let (negative, text) := match text with
    | '+' :: rest => (false, rest)
    | '-' :: rest => (true, rest)
    | rest => (false, rest)
  if text.isEmpty then .error .ended
  else if startsWithDigit text then
    let value := decimalValue (text.takeWhile isDigit)
    scaled kept (if negative then exponent - value else exponent + value) (text.dropWhile isDigit)
  else .error .malformed

/-- An exponent, if one follows. -/
def exponentPart? (kept : Nat) (exponent : Int) : List Char → Except ReadError (Numeral × List Char)
  | 'e' :: rest | 'E' :: rest => exponentPart kept exponent rest
  | rest => scaled kept exponent rest

/-- The text after a decimal point. Digits past those that can be kept are left out. -/
def fractionPart (kept : Nat) (exponent : Int) (text : List Char) :
    Except ReadError (Numeral × List Char) :=
  let (kept, count, rest) := keepDigits kept text
  if startsWithDigit rest then exponentPart? kept (exponent - count) (rest.dropWhile isDigit)
  else if 0 < count then exponentPart? kept (exponent - count) rest
  else .error (if rest.isEmpty then .ended else .malformed)

/-- A numeral without fraction and exponent, if an integer field takes it. -/
def integral (negative : Bool) (kept : Nat) : Numeral :=
  if negative then
    if 0 < kept ∧ minMoney ≤ -(kept : Int) then .integer (-kept) else .unfit
  else if (kept : Int) ≤ maxMoney then .integer kept else .unfit

/-- The text after the digits before any decimal point, all of which were kept. -/
def afterKept (negative : Bool) (kept : Nat) : List Char → Except ReadError (Numeral × List Char)
  | '.' :: rest => fractionPart kept 0 rest
  | 'e' :: rest | 'E' :: rest => exponentPart kept 0 rest
  | rest => .ok (integral negative kept, rest)

/-- The text after digits that could not all be kept, `exponent` of which were left out. -/
def afterLong (kept : Nat) (exponent : Nat) : List Char → Except ReadError (Numeral × List Char)
  | '.' :: rest => fractionPart kept exponent rest
  | rest => exponentPart? kept exponent rest

/-- A numeral after its sign. -/
def numeral (negative : Bool) : List Char → Except ReadError (Numeral × List Char)
  | [] => .error .ended
  | '0' :: rest =>
    if startsWithDigit rest then .error .malformed else afterKept negative 0 rest
  | c :: rest =>
    match digit? c with
    | none => .error .malformed
    | some d =>
      let (kept, _, rest) := keepDigits d rest
      if startsWithDigit rest then
        afterLong kept (rest.takeWhile isDigit).length (rest.dropWhile isDigit)
      else afterKept negative kept rest

/-- A numeral whose sign is still in the text. -/
def Reader.signedNumeral : Reader Numeral := fun text =>
  match text with
  | '-' :: rest => numeral true rest
  | rest => numeral false rest

end Passbook.Json
