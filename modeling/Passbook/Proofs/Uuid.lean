import Mathlib.Algebra.BigOperators.Group.List.Basic
import Passbook.Proofs.Json.Reading
import Passbook.Uuid

/-! # Identifiers as they are written

The written form of an identifier, lower-case digits in hyphenated groups, is one of the forms that
the reader takes, and it stands for the same identifier. Identifiers that are counted from serial
numbers differ, up to 2 ^ 122 of them (`drawn_injective`). -/

namespace Passbook.Uuid

open Text

/-! ## Counted identifiers -/

private theorem free_bits (m : Nat) (h : m < 2 ^ 122) :
    (drawn m).bits.toNat = m / 2 ^ 74 * 2 ^ 80 + 4 * 2 ^ 76 + m / 2 ^ 62 % 2 ^ 12 * 2 ^ 64
      + 2 * 2 ^ 62 + m % 2 ^ 62 := by
  simp only [drawn, ofNat, BitVec.toNat_ofNat, Nat.shiftLeft_eq, Nat.shiftRight_eq_div_pow,
    Nat.one_mul]
  omega

theorem drawn_injective {m n : Nat} (hm : m < 2 ^ 122) (hn : n < 2 ^ 122)
    (h : drawn m = drawn n) : m = n := by
  have bits := congrArg (fun id : Uuid => id.bits.toNat) h
  simp only [free_bits m hm, free_bits n hn] at bits
  omega

/-! ## The written form -/

theorem length_hyphenate {lengths : List Nat} {digits : List Char}
    (h : digits.length = lengths.sum) :
    (hyphenate lengths digits).length = digits.length + lengths.length := by
  induction lengths generalizing digits with
  | nil => simpa [hyphenate] using h.symm
  | cons n lengths ih =>
    rw [List.sum_cons] at h
    have hdrop : (digits.drop n).length = lengths.sum := by rw [List.length_drop, h]; omega
    have hrest := ih hdrop
    rw [hyphenate, List.cons_append, List.length_cons, List.length_append, List.length_take, hrest,
      List.length_drop, List.length_cons]
    omega

/-- The digits in groups are the digits. -/
theorem unhyphenate?_hyphenate {lengths : List Nat} {digits : List Char}
    (h : digits.length = lengths.sum) :
    unhyphenate? lengths (hyphenate lengths digits) = some digits := by
  induction lengths generalizing digits with
  | nil =>
    rw [List.eq_nil_of_length_eq_zero h]
    rfl
  | cons n lengths ih =>
    rw [List.sum_cons] at h
    have htake : (digits.take n).length = n := by rw [List.length_take, h]; omega
    have hdrop : (digits.drop n).length = lengths.sum := by rw [List.length_drop, h]; omega
    have hrest := ih hdrop
    rw [hyphenate, List.cons_append, unhyphenate?, if_pos (by rw [List.length_append, htake]; omega),
      List.drop_left' htake, List.take_left' htake, hrest, Option.map_some, List.take_append_drop]

theorem mem_hyphenate {lengths : List Nat} {digits : List Char} {c : Char}
    (h : c ∈ hyphenate lengths digits) : c = '-' ∨ c ∈ digits := by
  induction lengths generalizing digits with
  | nil => cases h
  | cons n lengths ih =>
    rw [hyphenate, List.cons_append, List.mem_cons, List.mem_append] at h
    rcases h with rfl | h | h
    · exact .inl rfl
    · exact .inr (List.mem_of_mem_take h)
    · exact (ih h).imp_right List.mem_of_mem_drop

theorem length_digits (id : Uuid) : (hexDigits 32 id.bits.toNat).length = groups.sum :=
  length_hexDigits ..

theorem length_chars (id : Uuid) : id.chars.length = 36 := by
  rw [chars, List.length_drop, length_hyphenate id.length_digits, length_hexDigits]
  rfl

theorem ofDigits?_hexDigits (id : Uuid) : ofDigits? (hexDigits 32 id.bits.toNat) = some id := by
  have hlt : id.bits.toNat < 16 ^ 32 := id.bits.isLt
  rw [ofDigits?, if_pos (length_hexDigits ..), Text.ofDigits?_hexDigits, Nat.mod_eq_of_lt hlt,
    Nat.mul_zero, Nat.zero_add, Option.map_some, ofNat, BitVec.ofNat_toNat, BitVec.setWidth_eq]

/-- An identifier is read back from its written form. -/
theorem ofChars?_chars (id : Uuid) : ofChars? id.chars = some id := by
  have hgroups : '-' :: id.chars = hyphenate groups (hexDigits 32 id.bits.toNat) := rfl
  rw [ofChars?, length_chars]
  simp only
  rw [ofGroups?, hgroups, unhyphenate?_hyphenate id.length_digits, Option.bind_some,
    ofDigits?_hexDigits]

theorem plain_hexDigit {d : Nat} (h : d < 16) :
    hexDigit d ≠ '"' ∧ hexDigit d ≠ '\\' ∧ ' ' ≤ hexDigit d := by
  have hall : ∀ d : Fin 16, hexDigit d.val ≠ '"' ∧ hexDigit d.val ≠ '\\' ∧ ' ' ≤ hexDigit d.val := by
    decide
  exact hall ⟨d, h⟩

theorem plain_chars (id : Uuid) : Json.Reader.Plain id.chars := by
  intro c hc
  rcases mem_hyphenate (List.mem_of_mem_drop hc) with rfl | hc
  · decide
  · obtain ⟨d, hd, rfl⟩ := exists_of_mem_hexDigits hc
    exact plain_hexDigit hd

end Passbook.Uuid
