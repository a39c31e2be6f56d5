import Mathlib.Data.List.TakeWhile
import Passbook.Instant.Reader
import Passbook.Proofs.Calendar
import Passbook.Proofs.Json.Reading

/-! # Instants as they are written

An instant in a year of four digits is read back from its written form (`Instant.ofChars?_text`), be it
one of a leap second or not. What is read from any text is an instant to the nanosecond, which has a
fraction of one second or more only in a leap second (`Instant.isExact_of_ofChars?`). -/

namespace Passbook.Instant

open Text Json.Reader

/-- Told to the nanosecond; only the last second of a minute goes on into a leap second. -/
def IsExact (instant : Instant) : Prop :=
  instant.nanos < 1000000000 ∨ instant.nanos < 2000000000 ∧ instant.seconds % 60 = 59

/-- Within the years 0000 to 9999. -/
def HasShortYear (instant : Instant) : Prop := 0 ≤ instant.date.year ∧ instant.date.year ≤ 9999

variable {instant : Instant} {width value low high : Nat} {c : Char} {rest text : List Char}

/-! ## Numbers and separators -/

theorem trimLeft_cons (h : isBlank c = false) (rest : List Char) : trimLeft (c :: rest) = c :: rest := by
  simp [trimLeft, h]

theorem trimLeft_padded (hpos : 0 < width) (h : value < 10 ^ width) (rest : List Char) :
    trimLeft ((padded width value).toList ++ rest) = (padded width value).toList ++ rest := by
  obtain ⟨c, digits, hdigits, hc⟩ := exists_padded_eq_cons hpos h
  rw [hdigits, List.cons_append, trimLeft_cons (not_isBlank_of_isDigit hc)]

theorem takeWhile_padded (width value : Nat) :
    (padded width value).toList.takeWhile isDigit = (padded width value).toList :=
  List.takeWhile_eq_self_iff.mpr fun c hc => by rw [isDigit_eq, isDigit_of_mem_padded hc]

theorem number?_padded (hpos : 0 < width) (h : value < 10 ^ width) (rest : List Char) :
    number? width ((padded width value).toList ++ rest) = some (value, rest) := by
  have hlength := length_padded hpos h
  have hne := isEmpty_padded hpos h
  simp only [number?, trimLeft_padded hpos h, List.take_left' hlength, takeWhile_padded, hne,
    Bool.false_eq_true, if_false, decimalValue_padded, hlength, List.drop_left' hlength]

theorem numberIn?_padded (hpos : 0 < width) (h : value < 10 ^ width) (hlow : low ≤ value)
    (hhigh : value ≤ high) (rest : List Char) :
    numberIn? width low high ((padded width value).toList ++ rest) = some (value, rest) := by
  rw [numberIn?, number?_padded hpos h, Option.filter_some, if_pos (by simp [hlow, hhigh])]

theorem separator?_cons (h : isBlank c = false) (rest : List Char) :
    separator? c (c :: rest) = some rest := by
  rw [separator?, trimLeft_cons h]
  exact if_pos rfl

theorem year?_padded (h : value < 10000) (rest : List Char) :
    year? ((padded 4 value).toList ++ rest) = some ((value : Int), rest) := by
  obtain ⟨c, digits, hdigits, hc⟩ := exists_padded_eq_cons (by decide : 0 < 4) h
  have hnumber := number?_padded (by decide : 0 < 4) h rest
  rw [year?, trimLeft_padded (by decide) h]
  rw [hdigits, List.cons_append] at hnumber ⊢
  split
  · rename_i heq
    rw [(List.cons.inj heq).1] at hc
    cases hc
  · rename_i heq
    rw [(List.cons.inj heq).1] at hc
    cases hc
  · rw [hnumber]
    rfl

/-! ## Fractions -/

theorem fraction?_padded (hpos : 0 < width) (hle : width ≤ 9) (h : value < 10 ^ width)
    (rest : List Char) : fraction? ('.' :: ((padded width value).toList ++ 'Z' :: rest)) =
      some (value * 10 ^ (9 - width), 'Z' :: rest) := by
  have hlength := length_padded hpos h
  have hdigits : ((padded width value).toList ++ 'Z' :: rest).takeWhile isDigit =
      (padded width value).toList := by
    rw [List.takeWhile_append_of_pos fun c hc => by rw [isDigit_eq, isDigit_of_mem_padded hc],
      List.takeWhile_cons_of_neg (by decide), List.append_nil]
  have hne := isEmpty_padded hpos h
  have htake : (padded width value).toList.take 9 = (padded width value).toList :=
    List.take_of_length_le (Nat.le_trans (Nat.le_of_eq hlength) hle)
  simp only [fraction?, hdigits, hne, htake, Bool.false_eq_true, if_false, decimalValue_padded, hlength,
    List.drop_left' hlength]
  rfl

/-- The digits that are left out of a fraction are zeros. -/
theorem fraction?_fractionText {nanos : Nat} (h : nanos < 1000000000) (rest : List Char) :
    fraction? ((fractionText nanos).toList ++ 'Z' :: rest) = some (nanos, 'Z' :: rest) := by
  have hdigits : ∀ width unit, 0 < width → width ≤ 9 → nanos / unit < 10 ^ width →
      nanos / unit * 10 ^ (9 - width) = nanos →
      fraction? (("." ++ padded width (nanos / unit)).toList ++ 'Z' :: rest) =
        some (nanos, 'Z' :: rest) := by
    intro width unit hpos hle hlt hexact
    have hpoint : ("." ++ padded width (nanos / unit)).toList =
        '.' :: (padded width (nanos / unit)).toList := by simp
    rw [hpoint, List.cons_append, fraction?_padded hpos hle hlt, hexact]
  unfold fractionText
  split
  · rename_i hzero
    rw [hzero]
    rfl
  split
  · exact hdigits 3 1000000 (by decide) (by decide) (by omega) (by omega)
  split
  · exact hdigits 6 1000 (by decide) (by decide) (by omega) (by omega)
  · have hnine := hdigits 9 1 (by decide) (by decide) (by omega) (by omega)
    rwa [Nat.div_one] at hnine

/-! ## The whole -/

theorem bind_of_eq_some {α β : Type} {part? : Option α} {value : α} {next : α → Option β}
    {whole? : Option β} (h : part? = some value) (hnext : next value = whole?) :
    part?.bind next = whole? := by
  rw [h]
  exact hnext

/-- Reading an instant is reading its parts. -/
theorem ofChars?_of_parts {year : Int} {month day hour minute second nanos : Nat}
    {a b c d e f g h i j : List Char} (hyear : year? text = some (year, a))
    (hdash : separator? '-' a = some b) (hmonth : numberIn? 2 1 12 b = some (month, c))
    (hdash' : separator? '-' c = some d) (hday : numberIn? 2 1 31 d = some (day, 'T' :: e))
    (hhour : numberIn? 2 0 23 e = some (hour, f)) (hcolon : separator? ':' f = some g)
    (hminute : numberIn? 2 0 59 g = some (minute, h)) (hcolon' : separator? ':' h = some i)
    (hsecond : numberIn? 2 0 60 i = some (second, j)) (hfraction : fraction? j = some (nanos, ['Z'])) :
    ofChars? text = ofLocal? ⟨year, month, day⟩
      (hour * 3600 + minute * 60 + second - second / 60) (nanos + second / 60 * 1000000000) 0 := by
  have hoffset : offset? ['Z'] = some (0, []) := rfl
  exact bind_of_eq_some hyear <| bind_of_eq_some hdash <| bind_of_eq_some hmonth <|
    bind_of_eq_some hdash' <| bind_of_eq_some hday <| bind_of_eq_some rfl <|
    bind_of_eq_some hhour <| bind_of_eq_some hcolon <| bind_of_eq_some hminute <|
    bind_of_eq_some hcolon' <| bind_of_eq_some hsecond <| bind_of_eq_some hfraction <|
    bind_of_eq_some hoffset <| bind_of_eq_some rfl rfl

theorem toList_text (h : instant.HasShortYear) : instant.text.toList =
    (padded 4 instant.date.year.toNat).toList ++ '-' :: ((padded 2 instant.date.month).toList ++
      '-' :: ((padded 2 instant.date.day).toList ++
      'T' :: ((padded 2 (instant.secondOfDay / 3600)).toList ++
      ':' :: ((padded 2 (instant.secondOfDay / 60 % 60)).toList ++
      ':' :: ((padded 2 (instant.secondOfDay % 60 + instant.nanos / 1000000000)).toList ++
      ((fractionText (instant.nanos % 1000000000)).toList ++ ['Z'])))))) := by
  have hyear : yearText instant.date.year = padded 4 instant.date.year.toNat := if_pos h
  simp [text, hyear]

theorem date_bounds (instant : Instant) : 1 ≤ instant.date.month ∧ instant.date.month ≤ 12 ∧
    1 ≤ instant.date.day ∧ instant.date.day ≤ 31 := by
  have hvalid := Date.isValid_ofDays (instant.seconds / 86400)
  simp only [Date.isValid, Bool.and_eq_true, decide_eq_true_eq] at hvalid
  obtain ⟨⟨⟨hmonth, hmonth'⟩, hday⟩, hday'⟩ := hvalid
  exact ⟨hmonth, hmonth', hday, Nat.le_trans hday' (Date.daysInMonth_le ..)⟩

theorem inRange_of_hasShortYear (h : instant.HasShortYear) : instant.inRange = true := by
  obtain ⟨hlow, hhigh⟩ := h
  obtain ⟨hmonth, hmonth', hday, hday'⟩ := instant.date_bounds
  have hdays : instant.date.toDays = instant.seconds / 86400 := Date.toDays_ofDays _
  have hfirst : Date.toDays ⟨minYear, 1, 1⟩ ≤ -1000000 := by decide
  have hlast : 10000000 ≤ Date.toDays ⟨maxYear + 1, 1, 1⟩ := by decide
  have hbounds : -1000000 ≤ instant.date.toDays ∧ instant.date.toDays < 9000000 := by
    simp only [Date.toDays]
    split <;> omega
  simp only [inRange, Bool.and_eq_true, decide_eq_true_eq]
  omega

/-- An instant that is put together from its parts in UTC. -/
theorem ofLocal?_date (hyear : instant.HasShortYear) :
    ofLocal? instant.date instant.secondOfDay instant.nanos 0 = some instant := by
  have hdays : instant.date.toDays = instant.seconds / 86400 := Date.toDays_ofDays _
  have hseconds : instant.date.toDays * 86400 + instant.secondOfDay - 0 = instant.seconds := by
    rw [hdays, secondOfDay]
    omega
  have hfits : minYear ≤ instant.date.year ∧ instant.date.year ≤ maxYear ∧
      instant.date.isValid = true ∧ (0 : Int).natAbs < 86400 ∧ instant.inRange = true := by
    obtain ⟨hlow, hhigh⟩ := hyear
    refine ⟨?_, ?_, Date.isValid_ofDays _, by decide, inRange_of_hasShortYear ⟨hlow, hhigh⟩⟩
    · unfold minYear
      omega
    · unfold maxYear
      omega
  simp only [ofLocal?, hseconds]
  exact if_pos hfits

/-- An instant in a year of four digits is read back as it is written. -/
theorem ofChars?_text (hexact : instant.IsExact) (hyear : instant.HasShortYear) :
    ofChars? instant.text.toList = some instant := by
  obtain ⟨hmonth, hmonth', hday, hday'⟩ := instant.date_bounds
  have hsecond : instant.secondOfDay < 86400 := by
    unfold secondOfDay
    omega
  have hsixty : (instant.secondOfDay % 60 : Nat) = (instant.seconds % 60).toNat := by
    unfold secondOfDay
    omega
  -- a leap second comes after second 59 and is written as second 60
  have hleap : instant.secondOfDay % 60 + instant.nanos / 1000000000 ≤ 60 ∧
      (instant.secondOfDay % 60 + instant.nanos / 1000000000) / 60 = instant.nanos / 1000000000 := by
    rcases hexact with hshort | ⟨hlong, hlast⟩ <;> omega
  have hyears : ((instant.date.year.toNat : Nat) : Int) = instant.date.year :=
    Int.toNat_of_nonneg hyear.1
  have hyear4 : instant.date.year.toNat < 10000 := by
    have hhigh := hyear.2
    omega
  have hclock : instant.secondOfDay / 3600 * 3600 + instant.secondOfDay / 60 % 60 * 60 +
      (instant.secondOfDay % 60 + instant.nanos / 1000000000) - instant.nanos / 1000000000 =
      instant.secondOfDay := by omega
  have hnanos : instant.nanos % 1000000000 + instant.nanos / 1000000000 * 1000000000 =
      instant.nanos := by omega
  rw [toList_text hyear, ofChars?_of_parts (year?_padded hyear4 _) (separator?_cons rfl _)
    (numberIn?_padded (by decide) (by omega) hmonth hmonth' _) (separator?_cons rfl _)
    (numberIn?_padded (by decide) (by omega) hday hday' _)
    (numberIn?_padded (by decide) (by omega) (Nat.zero_le _) (by omega) _) (separator?_cons rfl _)
    (numberIn?_padded (by decide) (by omega) (Nat.zero_le _) (by omega) _) (separator?_cons rfl _)
    (numberIn?_padded (by decide) (by omega) (Nat.zero_le _) hleap.1 _)
    (fraction?_fractionText (by omega) [])]
  rw [hleap.2, hclock, hnanos, hyears]
  exact ofLocal?_date hyear

/-! ## Between quotes -/

theorem plain_padded (width value : Nat) : Plain (padded width value).toList :=
  plain_of_isDigit fun _ => isDigit_of_mem_padded

theorem plain_fractionText (nanos : Nat) : Plain (fractionText nanos).toList := by
  have hpoint : ∀ width value, Plain ("." ++ padded width value).toList := fun width value => by
    rw [String.toList_append]
    exact Plain.append (by decide) (plain_padded width value)
  unfold fractionText
  split
  · decide
  split
  · exact hpoint _ _
  split
  · exact hpoint _ _
  · exact hpoint _ _

/-- No character of a written instant needs an escape. -/
theorem plain_text (h : instant.HasShortYear) : Plain instant.text.toList := by
  rw [toList_text h]
  exact (plain_padded _ _).append <| .cons (by decide) <| (plain_padded _ _).append <|
    .cons (by decide) <| (plain_padded _ _).append <| .cons (by decide) <|
    (plain_padded _ _).append <| .cons (by decide) <| (plain_padded _ _).append <|
    .cons (by decide) <| (plain_padded _ _).append <| (plain_fractionText _).append (by decide)

/-! ## What is read -/

theorem bounds_of_numberIn? (h : numberIn? width low high text = some (value, rest)) :
    low ≤ value ∧ value ≤ high := by
  obtain ⟨_, hbounds⟩ := Option.filter_eq_some_iff.mp h
  simpa using hbounds

theorem nanos_lt_of_fraction? {nanos : Nat} (h : fraction? text = some (nanos, rest)) :
    nanos < 1000000000 := by
  unfold fraction? at h
  split at h
  · rename_i written
    simp only at h
    split at h
    · cases h
    · cases h
      have hdigits : ∀ c ∈ (written.takeWhile isDigit).take 9, c.isDigit = true := fun c hc => by
        rw [← isDigit_eq]
        exact List.mem_takeWhile_imp (List.mem_of_mem_take hc)
      have hlt := decimalValue_lt hdigits
      have hle : ((written.takeWhile isDigit).take 9).length ≤ 9 := List.length_take_le ..
      calc _ < 10 ^ ((written.takeWhile isDigit).take 9).length *
            10 ^ (9 - ((written.takeWhile isDigit).take 9).length) :=
          Nat.mul_lt_mul_of_pos_right hlt (Nat.pow_pos (by decide))
        _ = 1000000000 := by rw [← Nat.pow_add, Nat.add_sub_cancel' hle]
  · cases h
    decide

/-- Hours and minutes make whole minutes. -/
theorem hoursAndMinutes?_mod (h : hoursAndMinutes? text = some (value, rest)) : value % 60 = 0 := by
  unfold hoursAndMinutes? at h
  split at h
  · obtain ⟨hours, -, h⟩ := Option.bind_eq_some_iff.mp h
    split at h
    · obtain ⟨minutes, -, h⟩ := Option.bind_eq_some_iff.mp h
      split at h
      · cases h
        omega
      · cases h
    · cases h
  · cases h

theorem offset?_emod {offset : Int} (h : offset? text = some (offset, rest)) : offset % 60 = 0 := by
  unfold offset? at h
  split at h
  · cases h
    rfl
  · cases h
    rfl
  · split at h
    · cases h
      rfl
    · split at h
      · obtain ⟨⟨value, _⟩, hvalue, h⟩ := Option.map_eq_some_iff.mp h
        cases h
        have hmod := hoursAndMinutes?_mod hvalue
        simp only
        omega
      · split at h
        · obtain ⟨⟨value, _⟩, hvalue, h⟩ := Option.map_eq_some_iff.mp h
          cases h
          have hmod := hoursAndMinutes?_mod hvalue
          simp only
          omega
        · cases h
  · cases h

theorem eq_of_ofLocal? {date : Date} {second nanos : Nat} {offset : Int}
    (h : ofLocal? date second nanos offset = some instant) :
    instant = ⟨date.toDays * 86400 + second - offset, nanos⟩ := by
  unfold ofLocal? at h
  simp only at h
  split at h
  · exact (Option.some.inj h).symm
  · cases h

/-- What is read is told to the nanosecond; a fraction of one second or more is one of a leap second,
at the end of a minute in every offset. -/
theorem isExact_of_ofChars? (h : ofChars? text = some instant) : instant.IsExact := by
  dsimp only [ofChars?] at h
  iterate 5 obtain ⟨_, -, h⟩ := Option.bind_eq_some_iff.mp h
  -- one case for each of the characters that may stand between the date and the time, and one for none
  split at h
  iterate 3
    iterate 5 obtain ⟨_, -, h⟩ := Option.bind_eq_some_iff.mp h
    obtain ⟨⟨second, _⟩, hsecond, h⟩ := Option.bind_eq_some_iff.mp h
    obtain ⟨⟨nanos, _⟩, hfraction, h⟩ := Option.bind_eq_some_iff.mp h
    obtain ⟨⟨offset, _⟩, hoffset, h⟩ := Option.bind_eq_some_iff.mp h
    obtain ⟨_, -, hlocal⟩ := Option.bind_eq_some_iff.mp h
    obtain ⟨-, hsecond⟩ := bounds_of_numberIn? hsecond
    have hnanos := nanos_lt_of_fraction? hfraction
    have hwhole := offset?_emod hoffset
    have hleap : second < 60 ∨ second = 60 := Nat.lt_or_eq_of_le hsecond
    rw [eq_of_ofLocal? hlocal]
    simp only [IsExact]
    omega
  · obtain ⟨_, hnone, -⟩ := Option.bind_eq_some_iff.mp h
    cases hnone

end Passbook.Instant
