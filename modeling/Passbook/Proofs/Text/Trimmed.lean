import Passbook.Proofs.Text.Written

/-! # Numbers with blanks around them

Removing the blanks at the two ends of a text leaves what stands between them (`trim_append`), and
nothing but blanks is removed (`exists_eq_trim`). A number may have such blanks around it and a plus
sign before its digits (`IsNumber`). -/

namespace Passbook.Text

variable {before after text : List Char}

/-- There are only blanks. -/
def AllBlank (text : List Char) : Prop := ∀ c ∈ text, isBlank c = true

theorem AllBlank.reverse (h : AllBlank text) : AllBlank text.reverse :=
  fun c hc => h c (List.mem_reverse.mp hc)

theorem trimLeft_append (h : AllBlank before) (hne : text ≠ [])
    (hfirst : isBlank (text.head hne) = false) : trimLeft (before ++ text) = text := by
  obtain ⟨c, rest, rfl⟩ := List.exists_cons_of_ne_nil hne
  rw [trimLeft, List.dropWhile_append_of_pos h, List.dropWhile_cons_of_neg (by simpa using hfirst)]

/-- The blanks at the two ends are removed, and nothing else. -/
theorem trim_append (hbefore : AllBlank before) (hafter : AllBlank after) (hne : text ≠ [])
    (hfirst : isBlank (text.head hne) = false) (hlast : isBlank (text.getLast hne) = false) :
    trim (before ++ (text ++ after)) = text := by
  have hleft : trimLeft (before ++ (text ++ after)) = text ++ after :=
    trimLeft_append hbefore (by simp [hne]) (by rwa [List.head_append_of_ne_nil hne])
  have hright : trimLeft (after.reverse ++ text.reverse) = text.reverse :=
    trimLeft_append hafter.reverse (by simpa using hne) (by rwa [List.head_reverse])
  rw [trim, hleft, List.reverse_append, hright, List.reverse_reverse]

theorem exists_eq_trimLeft (text : List Char) : ∃ before, AllBlank before ∧
    text = before ++ trimLeft text :=
  ⟨text.takeWhile isBlank, List.all_eq_true.mp List.all_takeWhile,
    List.takeWhile_append_dropWhile.symm⟩

/-- What is removed stands at the two ends and is blank. -/
theorem exists_eq_trim (text : List Char) : ∃ before after, AllBlank before ∧ AllBlank after ∧
    text = before ++ (trim text ++ after) := by
  obtain ⟨before, hbefore, heq⟩ := exists_eq_trimLeft text
  obtain ⟨after, hafter, hreverse⟩ := exists_eq_trimLeft (trimLeft text).reverse
  refine ⟨before, after.reverse, hbefore, hafter.reverse, ?_⟩
  rw [trim, ← List.reverse_append, ← hreverse, List.reverse_reverse]
  exact heq

theorem isDigit_of_ofDigits? {digits : List Char} {start value : Nat}
    (h : ofDigits? 10 digit? start digits = some value) : ∀ c ∈ digits, c.isDigit = true := by
  induction digits generalizing start with
  | nil => nofun
  | cons c digits ih =>
    obtain ⟨d, hd, hrest⟩ := Option.bind_eq_some_iff.mp h
    refine List.forall_mem_cons.mpr ⟨?_, ih hrest⟩
    rw [← isDigit_eq, isDigit, hd]
    rfl

theorem decimal?_eq_some_iff {digits : List Char} {value : Nat} : decimal? digits = some value ↔
    digits ≠ [] ∧ (∀ c ∈ digits, c.isDigit = true) ∧ Nat.ofDigitChars 10 digits 0 = value := by
  constructor
  · intro h
    cases digits with
    | nil => cases h
    | cons c digits =>
      have hdigits : ∀ d ∈ c :: digits, d.isDigit = true := isDigit_of_ofDigits? h
      rw [decimal?_of_isDigit hdigits (by simp)] at h
      exact ⟨by simp, hdigits, Option.some.inj h⟩
  · rintro ⟨hne, hdigits, rfl⟩
    exact decimal?_of_isDigit hdigits hne

/-- The text stands for the number: blanks, a plus sign or none, digits of base ten, blanks. -/
inductive IsNumber : List Char → Nat → Prop
  | intro {before sign digits after : List Char} : AllBlank before → AllBlank after →
      sign = [] ∨ sign = ['+'] → digits ≠ [] → (∀ c ∈ digits, c.isDigit = true) →
      IsNumber (before ++ (sign ++ digits ++ after)) (Nat.ofDigitChars 10 digits 0)

/-- The digits of a number, when the blanks around it have been removed. -/
theorem IsNumber.exists_digits {value : Nat} (h : IsNumber text value) : ∃ digits,
    (trim text = digits ∨ trim text = '+' :: digits) ∧ decimal? digits = some value := by
  cases h with
  | @intro before sign digits after hbefore hafter hsign hne hdigits =>
    have hlast : isBlank (digits.getLast hne) = false :=
      not_isBlank_of_isDigit (hdigits _ (List.getLast_mem hne))
    have hfirst : isBlank (digits.head hne) = false :=
      not_isBlank_of_isDigit (hdigits _ (List.head_mem hne))
    refine ⟨digits, ?_, decimal?_of_isDigit hdigits hne⟩
    rcases hsign with rfl | rfl
    · exact .inl (trim_append hbefore hafter (by simpa using hne) hfirst hlast)
    · refine .inr (trim_append hbefore hafter (by simp) rfl ?_)
      rwa [List.getLast_append_of_ne_nil _ hne]

theorem isNumber_of_trim {digits : List Char} {value : Nat}
    (htrim : trim text = digits ∨ trim text = '+' :: digits) (h : decimal? digits = some value) :
    IsNumber text value := by
  obtain ⟨hne, hdigits, rfl⟩ := decimal?_eq_some_iff.mp h
  obtain ⟨before, after, hbefore, hafter, heq⟩ := exists_eq_trim text
  rw [heq]
  rcases htrim with htrim | htrim <;> rw [htrim]
  · exact .intro hbefore hafter (.inl rfl) hne hdigits
  · exact .intro hbefore hafter (.inr rfl) hne hdigits

end Passbook.Text
