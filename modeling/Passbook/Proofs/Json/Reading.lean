import Passbook.Json.Record
import Passbook.Proofs.Text.Written

/-! # Reading what is written

A reader takes a written form off the front of a text if it returns the value and leaves exactly what
stands behind (`Reader.Takes`). Only a numeral can go on into what follows, so what follows must not
continue one (`EndsNumeral`). There is one lemma for each reader of a single value: integers, quoted
texts in any spelling (`Spells`), names of values (`Names`). Blanks before a value make no difference
(`Reader.SkipsBlanks`). -/

namespace Passbook.Json

open Text

variable {α β : Type} {text rest : List Char} {c : Char}

/-! ## Steps of readers -/

namespace Reader

theorem bind_of_ok {reader : Reader α} {f : α → Reader β} {value : α}
    (h : reader text = .ok (value, rest)) : (reader >>= f) text = f value rest := by
  change (reader text >>= fun result => f result.1 result.2) = _
  rw [h]
  rfl

theorem bind_of_error {reader : Reader α} {f : α → Reader β} {error : ReadError}
    (h : reader text = .error error) : (reader >>= f) text = .error error := by
  change (reader text >>= fun result => f result.1 result.2) = _
  rw [h]
  rfl

theorem map_of_ok {reader : Reader α} (f : α → β) {value : α}
    (h : reader text = .ok (value, rest)) : (f <$> reader) text = .ok (f value, rest) := by
  change (reader text >>= fun result => pure (f result.1, result.2)) = _
  rw [h]
  rfl

theorem peek_cons (h : isSpace c = false) (rest : List Char) :
    peek (c :: rest) = .ok (c, c :: rest) := by
  have hdrop : (c :: rest).dropWhile isSpace = c :: rest := by simp [h]
  have hpeek? : peek? (c :: rest) = .ok (some c, c :: rest) := by
    change Except.ok (((c :: rest).dropWhile isSpace).head?, (c :: rest).dropWhile isSpace) = _
    rw [hdrop]
    rfl
  exact bind_of_ok hpeek?

theorem expect_cons (h : isSpace c = false) (rest : List Char) :
    expect c (c :: rest) = .ok ((), rest) := by
  rw [expect, bind_of_ok (peek_cons h rest), if_pos rfl]
  rfl

end Reader

/-! ## Blanks -/

/-- Blanks and nothing else. -/
def Blank (text : List Char) : Prop := ∀ c ∈ text, isSpace c = true

theorem blank_nil : Blank [] := nofun

/-- Blanks before what the reader takes make no difference. -/
def Reader.SkipsBlanks (reader : Reader α) : Prop :=
  ∀ blanks text, Blank blanks → reader (blanks ++ text) = reader text

namespace Reader

theorem SkipsBlanks.bind {reader : Reader α} (h : reader.SkipsBlanks) (f : α → Reader β) :
    (reader >>= f).SkipsBlanks := by
  intro blanks text hblanks
  change (reader (blanks ++ text) >>= fun result => f result.1 result.2) = _
  rw [h blanks text hblanks]
  rfl

theorem SkipsBlanks.map {reader : Reader α} (h : reader.SkipsBlanks) (f : α → β) :
    SkipsBlanks (f <$> reader) := by
  rw [← bind_pure_comp]
  exact h.bind _

theorem skipsBlanks_peek? : peek?.SkipsBlanks := by
  intro blanks text hblanks
  have hpeek? : ∀ text : List Char,
      peek? text = .ok ((text.dropWhile isSpace).head?, text.dropWhile isSpace) := fun _ => rfl
  rw [hpeek?, hpeek?, List.dropWhile_append_of_pos hblanks]

theorem skipsBlanks_peek : peek.SkipsBlanks := skipsBlanks_peek?.bind _

theorem skipsBlanks_expect (c : Char) : (expect c).SkipsBlanks := skipsBlanks_peek.bind _

theorem skipsBlanks_integer : integer.SkipsBlanks := skipsBlanks_peek.bind _

theorem skipsBlanks_quoted : quoted.SkipsBlanks := skipsBlanks_peek.bind _

theorem skipsBlanks_variant (name : α → String) (values : List α) :
    (variant name values).SkipsBlanks := skipsBlanks_peek.bind _

theorem peek_blanks {blanks : List Char} (hblanks : Blank blanks) (h : isSpace c = false)
    (rest : List Char) : peek (blanks ++ c :: rest) = .ok (c, c :: rest) :=
  (skipsBlanks_peek _ _ hblanks).trans (peek_cons h rest)

theorem expect_blanks {blanks : List Char} (hblanks : Blank blanks) (h : isSpace c = false)
    (rest : List Char) : expect c (blanks ++ c :: rest) = .ok ((), rest) :=
  (skipsBlanks_expect c _ _ hblanks).trans (expect_cons h rest)

end Reader

/-! ## Numerals -/

/-- What follows does not continue a numeral. -/
def EndsNumeral (rest : List Char) : Prop :=
  ∀ c ∈ rest.head?, c.isDigit = false ∧ c ≠ '.' ∧ c ≠ 'e' ∧ c ≠ 'E'

theorem endsNumeral_nil : EndsNumeral [] := nofun

theorem endsNumeral_cons (h : c.isDigit = false ∧ c ≠ '.' ∧ c ≠ 'e' ∧ c ≠ 'E') :
    EndsNumeral (c :: rest) := by
  rintro _ ⟨⟩
  exact h

/-- The reader takes the text, as which the value is written, off the front of any longer text. -/
def Reader.Takes (reader : Reader α) (text : List Char) (value : α) : Prop :=
  ∀ rest, EndsNumeral rest → reader (text ++ rest) = .ok (value, rest)

theorem Reader.Takes.map {reader : Reader α} {value : α} (h : reader.Takes text value) (f : α → β) :
    Reader.Takes (f <$> reader) text (f value) :=
  fun rest hrest => map_of_ok f (h rest hrest)

theorem EndsNumeral.startsWithDigit (h : EndsNumeral rest) : startsWithDigit rest = false := by
  cases rest with
  | nil => rfl
  | cons c rest => simpa [Json.startsWithDigit, isDigit_eq] using (h c rfl).1

theorem EndsNumeral.afterKept (h : EndsNumeral rest) (negative : Bool) (kept : Nat) :
    afterKept negative kept rest = .ok (integral negative kept, rest) := by
  unfold Json.afterKept
  split
  · exact absurd rfl (h _ rfl).2.1
  · exact absurd rfl (h _ rfl).2.2.1
  · exact absurd rfl (h _ rfl).2.2.2
  · rfl

theorem le_ofDigitChars (digits : List Char) (start : Nat) :
    start ≤ Nat.ofDigitChars 10 digits start := by
  rw [Nat.ofDigitChars_eq_ofDigitChars_zero]
  have hpos := Nat.le_mul_of_pos_left start (Nat.pow_pos (n := digits.length) (by decide : 0 < 10))
  omega

/-- Digits are kept as long as their value is small enough, up to the first character that is none. -/
theorem keepDigits_append {digits : List Char} (hdigits : ∀ c ∈ digits, c.isDigit = true)
    (hrest : EndsNumeral rest) {start : Nat} (hle : Nat.ofDigitChars 10 digits start ≤ maxKept) :
    keepDigits start (digits ++ rest) =
      (Nat.ofDigitChars 10 digits start, digits.length, rest) := by
  induction digits generalizing start with
  | nil =>
    cases rest with
    | nil => rfl
    | cons c rest =>
      have hnone : digit? c = none := by rw [digit?_eq, (hrest c rfl).1]; rfl
      simp [keepDigits, hnone, Nat.ofDigitChars_nil]
  | cons c digits ih =>
    obtain ⟨hc, hdigits⟩ := List.forall_mem_cons.mp hdigits
    change Nat.ofDigitChars 10 digits (10 * start + (c.toNat - 48)) ≤ maxKept at hle
    have hsome : digit? c = some (c.toNat - 48) := by rw [digit?_eq, if_pos hc]
    have hkept : 10 * start + (c.toNat - 48) ≤ maxKept := Nat.le_trans (le_ofDigitChars ..) hle
    rw [List.cons_append, keepDigits, hsome]
    simp only [if_pos hkept]
    rw [ih hdigits hle]
    rfl

theorem numeral_toDigits {value : Nat} (hle : value ≤ maxKept) (hrest : EndsNumeral rest)
    (negative : Bool) :
    numeral negative (Nat.toDigits 10 value ++ rest) = .ok (integral negative value, rest) := by
  rcases Nat.eq_zero_or_pos value with rfl | hpos
  · rw [Nat.toDigits_zero, List.singleton_append, numeral, hrest.startsWithDigit]
    exact hrest.afterKept negative 0
  · obtain ⟨c, digits, hdigits, hc⟩ := exists_toDigits_eq_cons hpos
    have hall : ∀ d ∈ c :: digits, d.isDigit = true := by
      rw [← hdigits]
      exact fun _ => isDigit_of_mem_toDigits
    obtain ⟨hfirst, hlater⟩ := List.forall_mem_cons.mp hall
    have hvalue : Nat.ofDigitChars 10 digits (c.toNat - 48) = value := by
      have hwhole := Nat.ofDigitChars_ten_toDigits (n := value)
      rwa [hdigits, Nat.ofDigitChars_cons, Nat.mul_zero, Nat.zero_add] at hwhole
    have hsome : digit? c = some (c.toNat - 48) := by rw [digit?_eq, if_pos hfirst]
    rw [hdigits, List.cons_append, numeral]
    · simp only [hsome, keepDigits_append hlater hrest (Nat.le_trans (Nat.le_of_eq hvalue) hle),
        hrest.startsWithDigit, Bool.false_eq_true, if_false, hvalue]
      exact hrest.afterKept negative value
    · exact hc

theorem toList_toString_int (value : Int) : (toString value).toList =
    if 0 ≤ value then Nat.toDigits 10 value.toNat else '-' :: Nat.toDigits 10 (-value).toNat := by
  change value.repr.toList = _
  rw [Int.repr_eq_if]
  split <;> simp [Nat.repr_eq_ofList_toDigits]

/-- A number of the range is read back as it is written. -/
theorem signedNumeral_takes {value : Int} (hlow : minMoney ≤ value) (hhigh : value ≤ maxMoney) :
    Reader.signedNumeral.Takes (toString value).toList (.integer value) := by
  intro rest hrest
  have hlow' : -9223372036854775808 ≤ value := hlow
  have hhigh' : value ≤ 9223372036854775807 := hhigh
  rw [toList_toString_int]
  split
  · rename_i hnonneg
    obtain ⟨c, digits, hdigits⟩ := List.exists_cons_of_ne_nil (toDigits_ne_nil value.toNat)
    have hc : c ≠ '-' := by
      rintro rfl
      have hminus := isDigit_of_mem_toDigits (hdigits ▸ List.mem_cons_self)
      cases hminus
    have hfits : (value.toNat : Int) ≤ maxMoney := by omega
    have hkept : value.toNat ≤ maxKept := by unfold maxKept; omega
    have hnumeral := numeral_toDigits hkept hrest false
    rw [integral, if_neg (by decide), if_pos hfits, Int.toNat_of_nonneg hnonneg, hdigits] at hnumeral
    rw [hdigits, ← hnumeral, Reader.signedNumeral]
    intro _ heq
    exact hc (List.cons.inj heq).1
  · rename_i hneg
    have hfits : 0 < (-value).toNat ∧ minMoney ≤ -((-value).toNat : Int) := by
      constructor
      · omega
      · unfold minMoney
        omega
    have hvalue : -(((-value).toNat : Nat) : Int) = value := by omega
    have hkept : (-value).toNat ≤ maxKept := by unfold maxKept; omega
    have hnumeral := numeral_toDigits hkept hrest true
    rw [integral, if_pos rfl, if_pos hfits, hvalue] at hnumeral
    exact hnumeral

namespace Reader

theorem isSpace_of_isDigit (h : c.isDigit = true) : isSpace c = false := by
  have hbounds := Char.isDigit_iff_toNat.mp h
  simp only [isSpace, Bool.or_eq_false_iff, beq_eq_false_iff_ne]
  refine ⟨⟨⟨?_, ?_⟩, ?_⟩, ?_⟩ <;> rintro rfl <;> revert hbounds <;> decide

/-- A written number starts with a digit or a minus sign. -/
theorem exists_toString_int_eq_cons (value : Int) : ∃ c text,
    (toString value).toList = c :: text ∧ isSpace c = false ∧ (c = '-' ∨ isDigit c = true) := by
  rw [toList_toString_int]
  split
  · obtain ⟨c, digits, hdigits⟩ := List.exists_cons_of_ne_nil (toDigits_ne_nil value.toNat)
    have hc : c.isDigit = true := isDigit_of_mem_toDigits (hdigits ▸ List.mem_cons_self)
    exact ⟨c, digits, hdigits, isSpace_of_isDigit hc, .inr (by rw [isDigit_eq, hc])⟩
  · exact ⟨'-', _, rfl, rfl, .inl rfl⟩

theorem integer_takes {value : Int} (hlow : minMoney ≤ value) (hhigh : value ≤ maxMoney) :
    integer.Takes (toString value).toList value := by
  intro rest hrest
  have hnumeral := signedNumeral_takes hlow hhigh rest hrest
  obtain ⟨c, text, htext, hspace, hstart⟩ := exists_toString_int_eq_cons value
  rw [htext] at hnumeral ⊢
  rw [integer, List.cons_append, bind_of_ok (peek_cons hspace _), if_pos hstart]
  exact bind_of_ok hnumeral

/-! ## Quoted texts -/

/-- The characters stand for themselves between quotes. -/
def Plain (chars : List Char) : Prop := ∀ c ∈ chars, c ≠ '"' ∧ c ≠ '\\' ∧ ' ' ≤ c

instance (chars : List Char) : Decidable (Plain chars) :=
  List.decidableBAll (fun c => c ≠ '"' ∧ c ≠ '\\' ∧ ' ' ≤ c) chars

theorem Plain.cons {chars : List Char} (hc : c ≠ '"' ∧ c ≠ '\\' ∧ ' ' ≤ c) (h : Plain chars) :
    Plain (c :: chars) :=
  List.forall_mem_cons.mpr ⟨hc, h⟩

theorem Plain.append {chars chars' : List Char} (h : Plain chars) (h' : Plain chars') :
    Plain (chars ++ chars') :=
  fun c hc => (List.mem_append.mp hc).elim (h c) (h' c)

theorem plain_of_isDigit {chars : List Char} (h : ∀ c ∈ chars, c.isDigit = true) : Plain chars := by
  intro c hc
  have hbounds := Char.isDigit_iff_toNat.mp (h c hc)
  refine ⟨?_, ?_, Nat.le_trans (by decide) hbounds.1⟩ <;> rintro rfl <;> revert hbounds <;> decide

end Reader

open Reader

/-- The text stands for the characters between quotes: each is written as it is, as an escape of one
letter, or by the digits of its 16-bit units, of which a character beyond the first 65536 has two. -/
inductive Spells : (chars text : List Char) → Prop
  | nil : Spells [] []
  | plain {c : Char} {chars text : List Char} : c ≠ '"' → c ≠ '\\' → ' ' ≤ c → Spells chars text →
      Spells (c :: chars) (c :: text)
  | escape {letter c : Char} {chars text : List Char} : escaped? letter = some c →
      Spells chars text → Spells (c :: chars) ('\\' :: letter :: text)
  | unit {p q r s c : Char} {chars text : List Char} : unit? p q r s = some c.toNat →
      Spells chars text → Spells (c :: chars) ('\\' :: 'u' :: p :: q :: r :: s :: text)
  | pair {p q r s p' q' r' s' c : Char} {chars text : List Char} : 0x10000 ≤ c.toNat →
      unit? p q r s = some (0xD800 + (c.toNat - 0x10000) / 0x400) →
      unit? p' q' r' s' = some (0xDC00 + (c.toNat - 0x10000) % 0x400) → Spells chars text →
      Spells (c :: chars)
        ('\\' :: 'u' :: p :: q :: r :: s :: '\\' :: 'u' :: p' :: q' :: r' :: s' :: text)

theorem Spells.of_plain {chars : List Char} (h : Plain chars) : Spells chars chars := by
  induction chars with
  | nil => exact .nil
  | cons c chars ih =>
    obtain ⟨⟨hquote, hbackslash, hle⟩, hchars⟩ := List.forall_mem_cons.mp h
    exact .plain hquote hbackslash hle (ih hchars)

/-- A character is no half of a pair. -/
theorem not_isHalf_toNat (c : Char) : isFirstHalf c.toNat = false ∧ isSecondHalf c.toNat = false := by
  have hvalid : c.toNat < 0xD800 ∨ 0xDFFF < c.toNat ∧ c.toNat < 0x110000 := c.valid
  simp only [isFirstHalf, isSecondHalf, Bool.and_eq_false_iff, decide_eq_false_iff_not]
  omega

/-- The two units of a character beyond the first 65536 are a pair that stands for it. -/
theorem pairedChar_toNat (h : 0x10000 ≤ c.toNat) :
    isFirstHalf (0xD800 + (c.toNat - 0x10000) / 0x400) = true ∧
      isSecondHalf (0xD800 + (c.toNat - 0x10000) / 0x400) = false ∧
      isSecondHalf (0xDC00 + (c.toNat - 0x10000) % 0x400) = true ∧
      pairedChar (0xD800 + (c.toNat - 0x10000) / 0x400) (0xDC00 + (c.toNat - 0x10000) % 0x400) = c := by
  have hvalid : c.toNat < 0xD800 ∨ 0xDFFF < c.toNat ∧ c.toNat < 0x110000 := c.valid
  simp only [isFirstHalf, isSecondHalf, Bool.and_eq_true, Bool.and_eq_false_iff, decide_eq_true_eq,
    decide_eq_false_iff_not]
  refine ⟨by omega, by omega, by omega, ?_⟩
  have hvalue : (0xD800 + (c.toNat - 0x10000) / 0x400 - 0xD800) * 0x400 +
      (0xDC00 + (c.toNat - 0x10000) % 0x400 - 0xDC00) + 0x10000 = c.toNat := by omega
  rw [pairedChar, hvalue, Char.ofNat_toNat]

theorem quotedChars_spells {chars : List Char} (h : Spells chars text) (rest : List Char) :
    quotedChars (text ++ '"' :: rest) = .ok (chars, rest) := by
  induction h with
  | nil => simp [quotedChars]
  | plain hquote hbackslash hle _ ih =>
    rw [List.cons_append, quotedChars]
    · rw [if_neg (by exact Char.not_lt.mpr hle), ih]
      rfl
    all_goals first | exact hquote | intros; contradiction
  | @escape letter _ _ _ hletter _ ih =>
    have hu : letter ≠ 'u' := by
      rintro rfl
      cases hletter
    rw [List.cons_append, List.cons_append, quotedChars]
    · simp only [hletter, ih]
      rfl
    all_goals intros; contradiction
  | @unit _ _ _ _ c _ _ hunit _ ih =>
    obtain ⟨hfirst, hsecond⟩ := not_isHalf_toNat c
    simp only [List.cons_append, quotedChars, hunit, hfirst, hsecond, ih, Char.ofNat_toNat]
    rfl
  | pair hle hunit hunit' _ ih =>
    obtain ⟨hfirst, hnot, hsecond, hpaired⟩ := pairedChar_toNat hle
    simp only [List.cons_append, quotedChars, hunit, hunit', hfirst, hnot, ih, Option.filter_some,
      hsecond, Bool.false_eq_true, reduceIte, hpaired]
    rfl

namespace Reader

theorem quoted_spells {chars : List Char} (h : Spells chars text) (rest : List Char) :
    quoted ('"' :: (text ++ '"' :: rest)) = .ok (chars, rest) := by
  rw [quoted, bind_of_ok (peek_cons rfl _), if_pos rfl]
  exact quotedChars_spells h rest

theorem quotedAs_takes {ofChars? : List Char → Option α} {chars : List Char} {value : α}
    (hspells : Spells chars text) (h : ofChars? chars = some value) :
    (quotedAs ofChars?).Takes ('"' :: (text ++ ['"'])) value := by
  intro rest _
  rw [quotedAs, List.cons_append, List.append_assoc, List.singleton_append,
    bind_of_ok (quoted_spells hspells rest), h]
  rfl

/-! ## Names of values -/

/-- The text is the name between quotes, or an object that gives the name no value. -/
inductive Names (name : List Char) : List Char → Prop
  | quoted {text : List Char} : Spells name text → Names name ('"' :: (text ++ ['"']))
  | member {before between between' after text : List Char} : Blank before → Spells name text →
      Blank between → Blank between' → Blank after →
      Names name ('\x7b' :: (before ++ '"' :: (text ++ '"' ::
        (between ++ ':' :: (between' ++ ("null".toList ++ (after ++ ['\x7d'])))))))

theorem skipsBlanks_null : null.SkipsBlanks := skipsBlanks_peek.bind _

theorem null_blanks {blanks : List Char} (h : Blank blanks) (rest : List Char) :
    null (blanks ++ ("null".toList ++ rest)) = .ok ((), rest) := by
  rw [skipsBlanks_null _ _ h]
  have hpeek := peek_cons (c := 'n') rfl ('u' :: 'l' :: 'l' :: rest)
  exact (bind_of_ok hpeek).trans rfl

section

variable {name : α → String} {values : List α} {value : α}

theorem named_spells (hspells : Spells (name value).toList text)
    (h : (values.find? fun other => name other == name value) = some value) (rest : List Char) :
    named name values ('"' :: (text ++ '"' :: rest)) = .ok (value, rest) := by
  rw [named, bind_of_ok (quoted_spells hspells rest), String.ofList_toList, h]
  rfl

theorem variant_takes (hnames : Names (name value).toList text)
    (h : (values.find? fun other => name other == name value) = some value) :
    (variant name values).Takes text value := by
  intro rest _
  cases hnames with
  | quoted hspells =>
    rw [variant, List.cons_append, List.append_assoc, List.singleton_append,
      bind_of_ok (peek_cons rfl _), if_pos rfl]
    exact named_spells hspells h rest
  | @member before between between' after text hbefore hspells hbetween hbetween' hafter =>
    have hadvance : ∀ text : List Char, advance ('\x7b' :: text) = .ok ((), text) := fun _ => rfl
    simp only [List.cons_append, List.append_assoc, List.nil_append]
    rw [variant, bind_of_ok (peek_cons rfl _), if_neg (by decide), if_pos rfl,
      bind_of_ok (hadvance _), bind_of_ok (peek_blanks hbefore rfl _), if_neg (by decide)]
    have hnamed := named_spells hspells h
    have hcolon := expect_blanks hbetween (c := ':') rfl
    have hend := expect_blanks hafter (c := '\x7d') rfl
    exact (bind_of_ok (hnamed _)).trans ((bind_of_ok (hcolon _)).trans
      ((bind_of_ok (null_blanks hbetween' _)).trans ((bind_of_ok (hend rest)).trans rfl)))

end

end Reader

end Passbook.Json
