import Passbook.Proofs.Json.Reading

/-! # The grammar of JSON

Which texts are well-formed values, said without a reader: words, numerals, quoted texts, and lists and
objects of values, which nest as deep as one likes (`IsJson`). Where a quoted text is read and not
passed over, its escapes must stand for characters (`Spells`); in a well-formed value, halves of pairs
may stand alone (`IsText`). -/

namespace Passbook.Json

open Text

/-! ## Blanks -/

/-- A blank that stands first does not continue a numeral. -/
theorem endsNumeral_of_isSpace {c : Char} (h : isSpace c = true) (rest : List Char) :
    EndsNumeral (c :: rest) := by
  refine endsNumeral_cons ⟨?_, ?_⟩
  · cases hc : c.isDigit with
    | false => rfl
    | true => cases (Reader.isSpace_of_isDigit hc).symm.trans h
  · refine ⟨?_, ?_, ?_⟩ <;> rintro rfl <;> cases h

theorem Blank.endsNumeral {blanks rest : List Char} (h : Blank blanks) (hrest : EndsNumeral rest) :
    EndsNumeral (blanks ++ rest) := by
  cases blanks with
  | nil => exact hrest
  | cons c blanks => exact endsNumeral_of_isSpace (h c List.mem_cons_self) _

/-! ## What stands between quotes -/

/-- The text may stand between quotes: nothing but its escapes is looked at, and any four digits of
base sixteen make a unit. -/
inductive IsText : List Char → Prop
  | nil : IsText []
  | plain {c : Char} {text : List Char} : c ≠ '"' → c ≠ '\\' → ' ' ≤ c → IsText text →
      IsText (c :: text)
  | escape {c : Char} {text : List Char} : (escaped? c).isSome = true → IsText text →
      IsText ('\\' :: c :: text)
  | unit {p q r s : Char} {text : List Char} :
      (∀ digit ∈ [p, q, r, s], (hexDigit? digit).isSome = true) → IsText text →
      IsText ('\\' :: 'u' :: p :: q :: r :: s :: text)

theorem hexDigit?_of_unit? {p q r s : Char} {unit : Nat} (h : unit? p q r s = some unit) :
    ∀ digit ∈ [p, q, r, s], (hexDigit? digit).isSome = true := by
  simp only [unit?, ofDigits?, Option.bind_eq_some_iff] at h
  obtain ⟨_, hp, _, hq, _, hr, _, hs, _⟩ := h
  simp [hp, hq, hr, hs]

theorem Spells.isText {chars text : List Char} (h : Spells chars text) : IsText text := by
  induction h with
  | nil => exact .nil
  | plain hquote hbackslash hle _ ih => exact .plain hquote hbackslash hle ih
  | escape hletter _ ih => exact .escape (Option.isSome_of_eq_some hletter) ih
  | unit hunit _ ih => exact .unit (hexDigit?_of_unit? hunit) ih
  | pair _ hfirst hsecond _ ih =>
    exact .unit (hexDigit?_of_unit? hfirst) (.unit (hexDigit?_of_unit? hsecond) ih)

/-! ## Numerals -/

/-- One digit or more. -/
def IsDigits (text : List Char) : Prop := text ≠ [] ∧ ∀ c ∈ text, c.isDigit = true

/-- The digits before a decimal point, with no zero before others. -/
inductive IsWhole : List Char → Prop
  | zero : IsWhole ['0']
  | digits {c : Char} {text : List Char} : c.isDigit = true → c ≠ '0' →
      (∀ d ∈ text, d.isDigit = true) → IsWhole (c :: text)

/-- A decimal point and digits, or nothing. -/
inductive IsFraction : List Char → Prop
  | absent : IsFraction []
  | digits {text : List Char} : IsDigits text → IsFraction ('.' :: text)

/-- A power of ten, or nothing. -/
inductive IsExponent : List Char → Prop
  | absent : IsExponent []
  | digits {c : Char} {sign text : List Char} : c = 'e' ∨ c = 'E' → sign ∈ [[], ['+'], ['-']] →
      IsDigits text → IsExponent (c :: (sign ++ text))

/-- A numeral of any length, with any fraction and power of ten. -/
inductive IsNumeral : List Char → Prop
  | positive {whole fraction exponent : List Char} : IsWhole whole → IsFraction fraction →
      IsExponent exponent → IsNumeral (whole ++ (fraction ++ exponent))
  | negative {whole fraction exponent : List Char} : IsWhole whole → IsFraction fraction →
      IsExponent exponent → IsNumeral ('-' :: (whole ++ (fraction ++ exponent)))

/-! ## Values -/

/-- The bracket that opens a frame. -/
def Frame.opening : Frame → Char
  | .list => '['
  | .object => '\x7b'

/-- The words that are values. -/
def words : List (List Char) := ["null".toList, "true".toList, "false".toList]

/-- The parts of a text: a value, or what stands between the brackets of a frame that is not empty. -/
inductive Part
  | value
  | items (frame : Frame)

/-- The text is a well-formed part. -/
inductive IsJson : Part → List Char → Prop
  | word {text : List Char} : text ∈ words → IsJson .value text
  | numeral {text : List Char} : IsNumeral text → IsJson .value text
  | quoted {text : List Char} : IsText text → IsJson .value ('"' :: (text ++ ['"']))
  | empty (frame : Frame) {blanks : List Char} : Blank blanks →
      IsJson .value (frame.opening :: (blanks ++ [Skip.closing frame]))
  | nested {frame : Frame} {text : List Char} : IsJson (.items frame) text →
      IsJson .value (frame.opening :: (text ++ [Skip.closing frame]))
  | element {before text after : List Char} : Blank before → IsJson .value text → Blank after →
      IsJson (.items .list) (before ++ (text ++ after))
  | member {before key between between' text after : List Char} : Blank before → IsText key →
      Blank between → Blank between' → IsJson .value text → Blank after →
      IsJson (.items .object)
        (before ++ '"' :: (key ++ '"' :: (between ++ ':' :: (between' ++ (text ++ after)))))
  | comma {frame : Frame} {text text' : List Char} : IsJson (.items frame) text →
      IsJson (.items frame) text' → IsJson (.items frame) (text ++ ',' :: text')

/-! ## How a value starts -/

theorem isSpace_of_mem_words {word : List Char} (h : word ∈ words) :
    ∃ c letters, word = c :: letters ∧ isSpace c = false ∧ c ≠ ']' := by
  simp only [words, List.mem_cons, List.not_mem_nil, or_false] at h
  rcases h with rfl | rfl | rfl <;> exact ⟨_, _, rfl, by decide, by decide⟩

theorem IsWhole.exists_cons {text : List Char} (h : IsWhole text) :
    ∃ c digits, text = c :: digits ∧ c.isDigit = true := by
  cases h with
  | zero => exact ⟨'0', [], rfl, rfl⟩
  | digits hc _ _ => exact ⟨_, _, rfl, hc⟩

theorem ne_bracket_of_isDigit {c : Char} (h : c.isDigit = true) : c ≠ ']' := by
  rintro rfl
  cases h

/-- A value starts with no blank, and with no bracket that closes a list. -/
theorem IsJson.exists_cons {text : List Char} (h : IsJson .value text) :
    ∃ c rest, text = c :: rest ∧ isSpace c = false ∧ c ≠ ']' := by
  cases h with
  | word hword => exact isSpace_of_mem_words hword
  | numeral hnumeral =>
    cases hnumeral with
    | positive hwhole =>
      obtain ⟨c, digits, rfl, hc⟩ := hwhole.exists_cons
      exact ⟨c, _, rfl, Reader.isSpace_of_isDigit hc, ne_bracket_of_isDigit hc⟩
    | negative => exact ⟨'-', _, rfl, rfl, by decide⟩
  | quoted => exact ⟨'"', _, rfl, rfl, by decide⟩
  | empty frame | @nested frame => cases frame <;> exact ⟨_, _, rfl, by decide, by decide⟩

/-- What stands between brackets starts, after blanks, with no bracket that closes them. -/
theorem IsJson.exists_of_items {part : Part} {text : List Char} (h : IsJson part text) {frame : Frame}
    (hpart : part = .items frame) : ∃ blanks c rest, Blank blanks ∧ text = blanks ++ c :: rest ∧
      isSpace c = false ∧ c ≠ Skip.closing frame := by
  induction h with
  | word | numeral | quoted | empty | nested => cases hpart
  | @element before text after hbefore htext =>
    cases hpart
    obtain ⟨c, rest, rfl, hc⟩ := htext.exists_cons
    exact ⟨before, c, rest ++ after, hbefore, rfl, hc⟩
  | @member before =>
    cases hpart
    exact ⟨before, '"', _, ‹_›, rfl, by decide, by decide⟩
  | @comma _ _ text' _ _ ih =>
    obtain ⟨blanks, c, rest, hblanks, rfl, hc⟩ := ih hpart
    exact ⟨blanks, c, rest ++ ',' :: text', hblanks, List.append_assoc .., hc⟩

end Passbook.Json
