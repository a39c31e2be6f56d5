import Mathlib.Algebra.GroupWithZero.Nat
import Passbook.Text.Blank
import Passbook.Text.Digits

/-! # Numbers as they are written

A number that is written in base ten, with or without zeros before it, or in base sixteen, is read
back as the same number. The digits of base ten are those of the standard library, so the facts on
its `Nat.toDigits` and `Nat.ofDigitChars` are used. -/

namespace Passbook.Text

/-! ## Base ten -/

theorem digit?_eq (c : Char) : digit? c = if c.isDigit then some (c.toNat - 48) else none := by
  have hiff : ('0' ≤ c ∧ c ≤ '9') ↔ c.isDigit = true := by
    rw [Char.isDigit_iff_toNat]
    exact Iff.rfl
  simp only [digit?, hiff]

theorem isDigit_eq (c : Char) : isDigit c = c.isDigit := by
  rw [isDigit, digit?_eq]
  cases c.isDigit <;> rfl

theorem not_isBlank_of_isDigit {c : Char} (h : c.isDigit = true) : isBlank c = false := by
  have hbounds := Char.isDigit_iff_toNat.mp h
  simp only [Char.reduceToNat] at hbounds
  simp [isBlank, blankRanges]
  omega

theorem ofDigits?_ten {digits : List Char} (h : ∀ c ∈ digits, c.isDigit = true) (start : Nat) :
    ofDigits? 10 digit? start digits = some (Nat.ofDigitChars 10 digits start) := by
  induction digits generalizing start with
  | nil => rfl
  | cons c digits ih =>
    obtain ⟨hc, hdigits⟩ := List.forall_mem_cons.mp h
    rw [ofDigits?, digit?_eq, if_pos hc, Option.bind_some, ih hdigits, Nat.ofDigitChars_cons]
    rfl

theorem decimal?_of_isDigit {digits : List Char} (h : ∀ c ∈ digits, c.isDigit = true)
    (hne : digits ≠ []) : decimal? digits = some (Nat.ofDigitChars 10 digits 0) := by
  cases digits with
  | nil => exact absurd rfl hne
  | cons c digits => exact ofDigits?_ten h 0

theorem decimalValue_eq {digits : List Char} (h : ∀ c ∈ digits, c.isDigit = true) :
    decimalValue digits = Nat.ofDigitChars 10 digits 0 := by
  suffices hfold : ∀ start, digits.foldl (fun value c => 10 * value + (digit? c).getD 0) start =
      Nat.ofDigitChars 10 digits start from hfold 0
  induction digits with
  | nil => exact fun _ => rfl
  | cons c digits ih =>
    obtain ⟨hc, hdigits⟩ := List.forall_mem_cons.mp h
    intro start
    rw [List.foldl_cons, ih hdigits, Nat.ofDigitChars_cons, digit?_eq, if_pos hc]
    rfl

theorem ofDigitChars_lt {digits : List Char} (h : ∀ c ∈ digits, c.isDigit = true) (start : Nat) :
    Nat.ofDigitChars 10 digits start < (start + 1) * 10 ^ digits.length := by
  induction digits generalizing start with
  | nil => simp [Nat.ofDigitChars_nil]
  | cons c digits ih =>
    obtain ⟨hc, hdigits⟩ := List.forall_mem_cons.mp h
    have hdigit := (Char.isDigit_iff_toNat.mp hc).2
    rw [Nat.ofDigitChars_cons, List.length_cons, Nat.pow_succ', ← Nat.mul_assoc]
    refine Nat.lt_of_lt_of_le (ih hdigits _) (Nat.mul_le_mul_right _ ?_)
    simp only [Char.reduceToNat] at hdigit ⊢
    omega

theorem decimalValue_lt {digits : List Char} (h : ∀ c ∈ digits, c.isDigit = true) :
    decimalValue digits < 10 ^ digits.length := by
  rw [decimalValue_eq h]
  exact Nat.lt_of_lt_of_eq (ofDigitChars_lt h 0) (Nat.one_mul _)

theorem isDigit_of_mem_toDigits {value : Nat} {c : Char} (h : c ∈ Nat.toDigits 10 value) :
    c.isDigit = true :=
  Nat.isDigit_of_mem_toDigits (by decide) (by decide) h

theorem toDigits_ne_nil (value : Nat) : Nat.toDigits 10 value ≠ [] :=
  List.ne_nil_of_length_pos Nat.length_toDigits_pos

/-- A written number other than zero does not start with a zero. -/
theorem exists_toDigits_eq_cons {value : Nat} (h : 0 < value) :
    ∃ c digits, Nat.toDigits 10 value = c :: digits ∧ c ≠ '0' := by
  induction value using Nat.strongRecOn with
  | ind value ih =>
    rw [Nat.toDigits_eq_if (by decide)]
    split
    · exact ⟨_, [], rfl, by rw [ne_eq, Nat.digitChar_eq_zero]; omega⟩
    · obtain ⟨c, digits, hdigits, hc⟩ := ih (value / 10) (by omega) (by omega)
      exact ⟨c, digits ++ [(value % 10).digitChar], by rw [hdigits]; rfl, hc⟩

/-! ## Numbers with zeros before them -/

theorem toList_padded (width value : Nat) : (padded width value).toList =
    List.replicate (width - (Nat.toDigits 10 value).length) '0' ++ Nat.toDigits 10 value := by
  simp [padded, Nat.repr_eq_ofList_toDigits]

theorem isDigit_of_mem_padded {width value : Nat} {c : Char} (h : c ∈ (padded width value).toList) :
    c.isDigit = true := by
  rw [toList_padded, List.mem_append] at h
  rcases h with h | h
  · rw [List.eq_of_mem_replicate h]
    rfl
  · exact isDigit_of_mem_toDigits h

theorem length_padded {width value : Nat} (hpos : 0 < width) (h : value < 10 ^ width) :
    (padded width value).toList.length = width := by
  have hle := (Nat.length_toDigits_le_iff (by decide) hpos).mpr h
  rw [toList_padded, List.length_append, List.length_replicate]
  omega

theorem exists_padded_eq_cons {width value : Nat} (hpos : 0 < width) (h : value < 10 ^ width) :
    ∃ c digits, (padded width value).toList = c :: digits ∧ c.isDigit = true := by
  obtain ⟨c, digits, hdigits⟩ := List.exists_cons_of_length_pos
    (Nat.lt_of_lt_of_eq hpos (length_padded hpos h).symm)
  exact ⟨c, digits, hdigits, isDigit_of_mem_padded (hdigits ▸ List.mem_cons_self)⟩

theorem isEmpty_padded {width value : Nat} (hpos : 0 < width) (h : value < 10 ^ width) :
    (padded width value).toList.isEmpty = false := by
  obtain ⟨c, digits, hdigits, -⟩ := exists_padded_eq_cons hpos h
  rw [hdigits]
  rfl

theorem decimalValue_padded (width value : Nat) : decimalValue (padded width value).toList = value := by
  rw [decimalValue_eq fun _ => isDigit_of_mem_padded, toList_padded, Nat.ofDigitChars_append,
    Nat.ofDigitChars_replicate_zero, Nat.mul_zero, Nat.ofDigitChars_ten_toDigits]

/-! ## Base sixteen -/

theorem ofDigits?_append (base : Nat) (value? : Char → Option Nat) (start : Nat)
    (text text' : List Char) : ofDigits? base value? start (text ++ text') =
      (ofDigits? base value? start text).bind fun value => ofDigits? base value? value text' := by
  induction text generalizing start with
  | nil => rfl
  | cons c text ih =>
    rw [List.cons_append, ofDigits?, ofDigits?, Option.bind_assoc]
    exact congrArg (value? c).bind (funext fun d => ih _)

theorem ofDigits?_hexDigits (width start value : Nat) :
    ofDigits? 16 hexDigit? start (hexDigits width value) =
      some (16 ^ width * start + value % 16 ^ width) := by
  induction width generalizing start value with
  | zero => simp [hexDigits, ofDigits?, Nat.mod_one]
  | succ width ih =>
    rw [hexDigits, ofDigits?_append, ih, Option.bind_some, ofDigits?,
      hexDigit?_hexDigit (Nat.mod_lt value (by decide)), Option.bind_some, ofDigits?, Option.some_inj,
      Nat.pow_succ', Nat.mod_mul, Nat.mul_add, Nat.mul_assoc]
    omega

theorem exists_of_mem_hexDigits {width value : Nat} {c : Char} (h : c ∈ hexDigits width value) :
    ∃ d, d < 16 ∧ c = hexDigit d := by
  induction width generalizing value with
  | zero => cases h
  | succ width ih =>
    rcases List.mem_append.mp h with h | h
    · exact ih h
    · exact ⟨value % 16, Nat.mod_lt value (by decide), List.mem_singleton.mp h⟩

end Passbook.Text
