/-! # Digits

Digits of base ten and base sixteen, and numbers as texts of digits. Reading is a fold over the
digits, so a number may have any length; a bound on its value is a test made afterwards. -/

namespace Passbook.Text

/-- The value of a digit of base ten. -/
def digit? (c : Char) : Option Nat :=
  if '0' ≤ c ∧ c ≤ '9' then some (c.toNat - 48) else none

/-- Whether a character is a digit of base ten. -/
def isDigit (c : Char) : Bool := (digit? c).isSome

/-- The value of a digit of base sixteen, in either case. -/
def hexDigit? (c : Char) : Option Nat :=
  if '0' ≤ c ∧ c ≤ '9' then some (c.toNat - 48)
  else if 'a' ≤ c ∧ c ≤ 'f' then some (c.toNat - 87)
  else if 'A' ≤ c ∧ c ≤ 'F' then some (c.toNat - 55)
  else none

/-- The number whose digits of the given base follow one another after `start`, or `none` if a
character is no digit. -/
def ofDigits? (base : Nat) (value? : Char → Option Nat) (start : Nat) : List Char → Option Nat
  | [] => some start
  | c :: rest => (value? c).bind fun d => ofDigits? base value? (base * start + d) rest

/-- The number written in base ten by one digit or more. -/
def decimal? : List Char → Option Nat
  | [] => none
  | text => ofDigits? 10 digit? 0 text

/-- The value of characters that are all digits of base ten. -/
def decimalValue (digits : List Char) : Nat :=
  digits.foldl (fun value c => 10 * value + (digit? c).getD 0) 0

/-- A digit of base sixteen in lower case. -/
def hexDigit (d : Nat) : Char := if d < 10 then Char.ofNat (48 + d) else Char.ofNat (87 + d)

/-- The last `width` digits of a number in base sixteen. -/
def hexDigits : (width : Nat) → Nat → List Char
  | 0, _ => []
  | width + 1, value => hexDigits width (value / 16) ++ [hexDigit (value % 16)]

/-- A number in base ten with zeros before it up to the given width. -/
def padded (width value : Nat) : String :=
  let digits := toString value
  String.ofList (List.replicate (width - digits.length) '0') ++ digits

theorem length_hexDigits (width value : Nat) : (hexDigits width value).length = width := by
  induction width generalizing value with
  | zero => rfl
  | succ width ih => simp [hexDigits, ih]

theorem hexDigit?_hexDigit {d : Nat} (h : d < 16) : hexDigit? (hexDigit d) = some d := by
  have : ∀ d : Fin 16, hexDigit? (hexDigit d.val) = some d.val := by decide
  exact this ⟨d, h⟩

end Passbook.Text
