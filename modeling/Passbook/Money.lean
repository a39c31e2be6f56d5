/-! # Money

Sums of money in the smallest currency unit, exact in a signed 64-bit range. An `Amount` is what a
transfer moves and is positive by construction. A `Balance` is what an account holds: the checked
constructor `Balance.ofInt` refuses a negative number, while `Balance.stored?` takes any number the
range admits, since a stored row is not checked when it is read.

Sums are computed in `Int`, so nothing wraps: a credit past the range is refused as an overflow and
a debit below zero as a negative balance. -/

namespace Passbook

/-- The greatest sum that can be stored. -/
def maxMoney : Int := 9223372036854775807

/-- The least number that a stored sum can have. -/
def minMoney : Int := -9223372036854775808

/-- Why a sum of money is refused. -/
inductive MoneyError
  | notPositive (value : Int)
  | negative (value : Int)
  | overflow
  deriving DecidableEq, Repr

/-- The wording of a refusal. -/
def MoneyError.message : MoneyError → String
  | .notPositive value => s!"Amount must be positive (got {value})"
  | .negative value => s!"Balance cannot be negative (got {value})"
  | .overflow => "Balance exceeds the maximum representable value"

/-- A positive sum within the range. -/
structure Amount where
  value : Int
  value_pos : 0 < value
  value_le : value ≤ maxMoney
  deriving DecidableEq, Repr

/-- The sum held by an account. -/
structure Balance where
  value : Int
  le_value : minMoney ≤ value
  value_le : value ≤ maxMoney
  deriving DecidableEq, Repr

namespace Amount

/-- Checks a number as the magnitude of a transfer. -/
def ofInt (value : Int) : Except MoneyError Amount :=
  if pos : 0 < value then
    if le : value ≤ maxMoney then .ok ⟨value, pos, le⟩ else .error .overflow
  else .error (.notPositive value)

theorem ofInt_value (a : Amount) : ofInt a.value = .ok a := by
  simp [ofInt, a.value_pos, a.value_le]

theorem ofInt_eq_ok_iff {value : Int} {a : Amount} : ofInt value = .ok a ↔ a.value = value := by
  constructor
  · intro h
    unfold ofInt at h
    split at h
    · split at h
      · cases h; rfl
      · cases h
    · cases h
  · rintro rfl; exact ofInt_value a

end Amount

namespace Balance

/-- Any number of the range, as a stored row may hold it. -/
def stored? (value : Int) : Option Balance :=
  if h : minMoney ≤ value ∧ value ≤ maxMoney then some ⟨value, h.1, h.2⟩ else none

/-- Checks a number as the balance of an account. -/
def ofInt (value : Int) : Except MoneyError Balance :=
  if nonneg : 0 ≤ value then
    if le : value ≤ maxMoney then
      .ok ⟨value, Int.le_trans (by decide) nonneg, le⟩
    else .error .overflow
  else .error (.negative value)

/-- The balance of an account that was never credited. -/
def zero : Balance := ⟨0, by decide, by decide⟩

instance : Inhabited Balance := ⟨zero⟩

/-- Whether a debit of the amount leaves the balance at zero or above. -/
def covers (balance : Balance) (amount : Amount) : Bool := amount.value ≤ balance.value

/-- The balance after money came in. -/
def credit (balance : Balance) (amount : Amount) : Except MoneyError Balance :=
  ofInt (balance.value + amount.value)

/-- The balance after money went out. -/
def debit (balance : Balance) (amount : Amount) : Except MoneyError Balance :=
  ofInt (balance.value - amount.value)

theorem ofInt_eq_ok_iff {value : Int} {b : Balance} :
    ofInt value = .ok b ↔ 0 ≤ value ∧ b.value = value := by
  constructor
  · intro h
    unfold ofInt at h
    split at h
    · split at h
      · cases h; exact ⟨‹_›, rfl⟩
      · cases h
    · cases h
  · rintro ⟨nonneg, rfl⟩
    simp [ofInt, nonneg, b.value_le]

end Balance

end Passbook
