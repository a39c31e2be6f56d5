import Passbook.Proofs.Json.RoundTrip
import Passbook.Proofs.Money.History

/-! # Balances that can be obtained

A balance is made by the checked constructor or as zero, by a credit or a debit of another balance, or
read from a text. All of these but the reader check what they make, so the balances that can be obtained
are all valid exactly if no text is read that stands for a negative number (`obtained_valid_iff`). The
reader itself refuses none: every number of 64 bits is read from its text. -/

namespace Passbook.Balance

variable {readable : String → Prop} {balance : Balance}

/-- The balance is at zero or above, the checked constructor takes its value, and no word wraps when an
amount is subtracted. -/
structure IsValid (balance : Balance) : Prop where
  nonneg : 0 ≤ balance.value
  accepted : ofInt balance.value = .ok balance
  debit_exact : ∀ amount : Amount,
    (balance.word - amount.word).toInt = balance.value - amount.value

theorem isValid_iff : balance.IsValid ↔ 0 ≤ balance.value where
  mp := IsValid.nonneg
  mpr h :=
    { nonneg := h
      accepted := ofInt_eq_ok_iff.mpr ⟨h, rfl⟩
      debit_exact := fun amount => (exact_of_nonneg h amount).difference }

/-- Balances obtained in finitely many steps, where only readable texts are read. -/
inductive Obtained (readable : String → Prop) : Balance → Prop
  | zero : Obtained readable zero
  | ofInt {value : Int} {balance : Balance} : ofInt value = .ok balance → Obtained readable balance
  | credit {balance grown : Balance} {amount : Amount} : Obtained readable balance →
      balance.credit amount = .ok grown → Obtained readable grown
  | debit {balance left : Balance} {amount : Amount} : Obtained readable balance →
      balance.debit amount = .ok left → Obtained readable left
  | read {text : String} {balance : Balance} : readable text → ofJson text = .ok balance →
      Obtained readable balance

/-- Only a balance that was just read can be below zero, whatever balances it could be computed from. -/
theorem Obtained.nonneg_or_read (h : Obtained readable balance) :
    0 ≤ balance.value ∨ ∃ text, readable text ∧ ofJson text = .ok balance := by
  cases h with
  | zero => exact .inl (by decide)
  | ofInt h =>
    obtain ⟨hnonneg, rfl⟩ := ofInt_eq_ok_iff.mp h
    exact .inl hnonneg
  | credit _ h =>
    obtain ⟨hnonneg, hvalue⟩ := credit_eq_ok_iff.mp h
    exact .inl (hvalue ▸ hnonneg)
  | debit _ h =>
    obtain ⟨hnonneg, hvalue⟩ := debit_eq_ok_iff.mp h
    exact .inl (hvalue ▸ hnonneg)
  | read hreadable h => exact .inr ⟨_, hreadable, h⟩

/-- The balances that can be obtained are valid exactly if no readable text gives a negative one. -/
theorem obtained_valid_iff (readable : String → Prop) :
    (∀ balance, Obtained readable balance → balance.IsValid) ↔
      ∀ text balance, readable text → ofJson text = .ok balance → 0 ≤ balance.value := by
  constructor
  · intro hvalid text balance hreadable h
    exact (hvalid balance (.read hreadable h)).nonneg
  · intro hread balance h
    rw [isValid_iff]
    rcases h.nonneg_or_read with hnonneg | ⟨text, hreadable, htext⟩
    · exact hnonneg
    · exact hread text balance hreadable htext

/-- All balances can be obtained if all texts are readable. -/
theorem obtained_of_readable (h : ∀ text, readable text) (balance : Balance) :
    Obtained readable balance :=
  .read (h _) balance.reader_takes.whole

/-- The balance of which the text is `-5` is not valid, and that of the least number of 64 bits is one
from which a subtraction of 1 wraps to the greatest. -/
theorem read_below_zero :
    (∃ balance, ofJson "-5" = .ok balance ∧ Obtained (fun _ => True) balance ∧
      ofInt balance.value = .error (.negative (-5)) ∧ ¬ balance.IsValid) ∧
    ∃ least, ofJson "-9223372036854775808" = .ok least ∧ Obtained (fun _ => True) least ∧
      (least.word - Amount.word ⟨1, by decide, by decide⟩).toInt = maxMoney := by
  have hread : ofJson "-5" = .ok ⟨-5, by decide, by decide⟩ := by decide +kernel
  have hleast : ofJson "-9223372036854775808" = .ok ⟨minMoney, by decide, by decide⟩ := by
    decide +kernel
  have hobtained := @obtained_of_readable (fun _ => True) fun _ => trivial
  exact ⟨⟨_, hread, hobtained _, rfl, fun h => absurd h.nonneg (by decide)⟩,
    _, hleast, hobtained _, by decide⟩

end Passbook.Balance
