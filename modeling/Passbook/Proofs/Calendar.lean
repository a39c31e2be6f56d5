import Passbook.Calendar

/-! # Dates and their numbers

Every number of a day is that of the date it stands for (`Date.toDays_ofDays`), and that date is one
that the calendar has (`Date.isValid_ofDays`). Both rest on how an era of 400 years is cut up: into
centuries of 36524 days, groups of four years of 1461 days, years of 365 days and a rest, where only
the last year of a group has one day more, and not the last one of a century unless the era ends
with it. -/

namespace Passbook.Date

/-- A day of an era, cut up: the century, the group of four years, the year and the day within it. -/
structure Cut (day century group year rest : Int) : Prop where
  eq : day = 36524 * century + 1461 * group + 365 * year + rest
  centuries : 0 ≤ century ∧ century ≤ 3
  groups : 0 ≤ group ∧ group ≤ 24
  years : 0 ≤ year ∧ year ≤ 3
  days : 0 ≤ rest ∧ (rest ≤ 364 ∨ rest = 365 ∧ year = 3 ∧ (group ≠ 24 ∨ century = 3))

variable {day century group year rest : Int}

theorem exists_cut (hlow : 0 ≤ day) (hhigh : day < 146097) :
    ∃ century group year rest, Cut day century group year rest := by
  by_cases hlast : day = 146096
  · exact ⟨3, 24, 3, 365, by omega, by omega, by omega, by omega, by omega⟩
  · by_cases hleap : day % 36524 % 1461 = 1460
    · exact ⟨day / 36524, day % 36524 / 1461, 3, 365, by omega, by omega, by omega, by omega, by omega⟩
    · exact ⟨day / 36524, day % 36524 / 1461, day % 36524 % 1461 / 365, day % 36524 % 1461 % 365,
        by omega, by omega, by omega, by omega, by omega⟩

namespace Cut

/-- The number of leap days that are left out of the day before it is divided by 365 is right. -/
theorem yearOfEra (h : Cut day century group year rest) :
    (day - day / 1460 + day / 36524 - day / 146096) / 365 = 100 * century + 4 * group + year := by
  obtain ⟨rfl, ⟨hc, hc'⟩, ⟨hg, hg'⟩, ⟨hy, hy'⟩, hr, hr'⟩ := h
  obtain ⟨left, hleft, hshort⟩ : ∃ left,
      (36524 * century + 1461 * group + 365 * year + rest) / 1460 = 25 * century + group + left ∧
        (left = 0 ∧ 24 * century + group + 365 * year + rest < 1460 ∨
          left = 1 ∧ 1460 ≤ 24 * century + group + 365 * year + rest) :=
    ⟨(24 * century + group + 365 * year + rest) / 1460, by omega, by omega⟩
  have hcentury : (36524 * century + 1461 * group + 365 * year + rest) / 36524 -
      (36524 * century + 1461 * group + 365 * year + rest) / 146096 = century := by
    have hpart : 1461 * group + 365 * year + rest ≤ 36523 ∨
        1461 * group + 365 * year + rest = 36524 ∧ century = 3 := by omega
    rcases hpart with hpart | ⟨hpart, rfl⟩ <;> omega
  have hwithin : 0 ≤ rest - left ∧ rest - left ≤ 364 := by omega
  have hdays : 36524 * century + 1461 * group + 365 * year + rest -
        (36524 * century + 1461 * group + 365 * year + rest) / 1460 +
        (36524 * century + 1461 * group + 365 * year + rest) / 36524 -
        (36524 * century + 1461 * group + 365 * year + rest) / 146096 =
      365 * (100 * century + 4 * group + year) + (rest - left) := by omega
  rw [hdays]
  omega

/-- The days of the era before its year. -/
theorem dayOfYear (h : Cut day century group year rest) :
    day - (365 * (100 * century + 4 * group + year) + (100 * century + 4 * group + year) / 4 -
      (100 * century + 4 * group + year) / 100) = rest := by
  obtain ⟨rfl, -, ⟨hg, hg'⟩, ⟨hy, hy'⟩, -⟩ := h
  have hgroups : (100 * century + 4 * group + year) / 4 = 25 * century + group := by omega
  have hcenturies : (100 * century + 4 * group + year) / 100 = century := by omega
  omega

/-- Only years that end with a leap day have 366 days. -/
theorem isLeap (h : Cut day century group year 365) (era : Int) :
    Date.isLeap (100 * century + 4 * group + year + 400 * era + 1) = true := by
  obtain ⟨-, -, hg, -, -, hr⟩ := h
  simp only [Date.isLeap, Bool.and_eq_true, Bool.or_eq_true, beq_iff_eq, bne_iff_ne]
  omega

end Cut

/-! ## Days of a year -/

theorem daysInMonth_le (year : Int) (month : Nat) : daysInMonth year month ≤ 31 := by
  unfold daysInMonth
  split <;> first | omega | split <;> omega

/-- The date that comes so many days after the first of March. -/
def afterMarch (year day : Int) : Date :=
  let fromMarch := (5 * day + 2) / 153
  let month := if fromMarch < 10 then fromMarch + 3 else fromMarch - 9
  ⟨year + (if month ≤ 2 then 1 else 0), month.toNat, (day - (153 * fromMarch + 2) / 5 + 1).toNat⟩

theorem afterMarch_of_lt {month : Nat} (year : Int) (h : (5 * day + 2) / 153 = month)
    (hm : month < 10) : afterMarch year day =
      ⟨year, month + 3, (day - (153 * month + 2) / 5 + 1).toNat⟩ := by
  have hlt : (month : Int) < 10 := by omega
  have hlate : ¬ (month : Int) + 3 ≤ 2 := by omega
  simp only [afterMarch, h, if_pos hlt, if_neg hlate]
  congr 1
  exact Int.add_zero year

theorem afterMarch_of_le {month : Nat} (year : Int) (h : (5 * day + 2) / 153 = month + 9)
    (hm : month ≤ 2) (hpos : 0 < month) : afterMarch year day =
      ⟨year + 1, month, (day - (153 * (month + 9) + 2) / 5 + 1).toNat⟩ := by
  have hle : ¬ (month : Int) + 9 < 10 := by omega
  have hearly : (month : Int) ≤ 2 := by omega
  simp only [afterMarch, h, if_neg hle, Int.add_sub_cancel, if_pos hearly, Int.toNat_natCast]

/-- A month between March and December, or one of the next year. -/
theorem month_cases (hlow : 0 ≤ day) (hhigh : day ≤ 365) :
    (∃ month : Nat, (5 * day + 2) / 153 = month ∧ month < 10) ∨
      ∃ month : Nat, (5 * day + 2) / 153 = month + 9 ∧ month ≤ 2 ∧ 0 < month := by
  by_cases h : (5 * day + 2) / 153 < 10
  · exact .inl ⟨((5 * day + 2) / 153).toNat, by omega, by omega⟩
  · exact .inr ⟨((5 * day + 2) / 153 - 9).toNat, by omega, by omega, by omega⟩

theorem toDays_afterMarch (year : Int) (hlow : 0 ≤ day) (hhigh : day ≤ 365) :
    (afterMarch year day).toDays =
      year * 365 + year / 4 - year / 100 + year / 400 + day - 719468 := by
  rcases month_cases hlow hhigh with ⟨month, h, hm⟩ | ⟨month, h, hm, hpos⟩
  · have hlate : ¬ month + 3 ≤ 2 := by omega
    simp only [afterMarch_of_lt year h hm, toDays, if_neg hlate]
    omega
  · simp only [afterMarch_of_le year h hm hpos, toDays, if_pos hm, Int.add_sub_cancel]
    omega

theorem daysInMonth_of_lt (year : Int) : ∀ month < 10,
    daysInMonth year (month + 3) = (153 * (month + 1) + 2) / 5 - (153 * month + 2) / 5
  | 0, _ | 1, _ | 2, _ | 3, _ | 4, _ | 5, _ | 6, _ | 7, _ | 8, _ | 9, _ => rfl
  | _ + 10, h => absurd h (by omega)

theorem isValid_afterMarch {year : Int} (hlow : 0 ≤ day)
    (hhigh : day ≤ 364 ∨ day = 365 ∧ isLeap (year + 1) = true) :
    (afterMarch year day).isValid = true := by
  have hle : day ≤ 365 := by omega
  rcases month_cases hlow hle with ⟨month, h, hm⟩ | ⟨month, h, hm, hpos⟩
  · simp only [afterMarch_of_lt year h hm, isValid, daysInMonth_of_lt year month hm,
      Bool.and_eq_true, decide_eq_true_eq]
    have hfirst : ((153 * month + 2) / 5 : Nat) ≤ day := by omega
    have hlast : day < ((153 * (month + 1) + 2) / 5 : Nat) := by omega
    have hcast : (153 * (month : Int) + 2) / 5 = ((153 * month + 2) / 5 : Nat) := by omega
    rw [hcast]
    omega
  · simp only [afterMarch_of_le year h hm hpos, isValid, Bool.and_eq_true, decide_eq_true_eq]
    obtain rfl | rfl : month = 1 ∨ month = 2 := by omega
    · have hlength : daysInMonth (year + 1) 1 = 31 := rfl
      omega
    · have hlength : daysInMonth (year + 1) 2 = if isLeap (year + 1) then 29 else 28 := rfl
      rcases hhigh with hhigh | ⟨rfl, hleap⟩
      · split at hlength <;> omega
      · rw [if_pos hleap] at hlength
        omega

/-! ## Dates of numbers -/

/-- The year, counted from March, that a day falls into, and which day of it that is. -/
theorem exists_ofDays_eq (days : Int) : ∃ year day, ofDays days = afterMarch year day ∧
    days = year * 365 + year / 4 - year / 100 + year / 400 + day - 719468 ∧
    0 ≤ day ∧ (day ≤ 364 ∨ day = 365 ∧ isLeap (year + 1) = true) := by
  obtain ⟨century, group, year, rest, hcut⟩ := exists_cut
    (Int.emod_nonneg (days + 719468) (by decide : (146097 : Int) ≠ 0))
    (Int.emod_lt_of_pos (days + 719468) (by decide))
  refine ⟨100 * century + 4 * group + year + 400 * ((days + 719468) / 146097), rest, ?_, ?_,
    hcut.days.1, ?_⟩
  · simp only [ofDays, hcut.yearOfEra, hcut.dayOfYear, afterMarch]
    congr 1
    omega
  · have hdays := hcut.dayOfYear
    have hc := hcut.centuries
    have hg := hcut.groups
    have hy := hcut.years
    omega
  · rcases hcut.days.2 with hle | ⟨rfl, -⟩
    · exact .inl hle
    · exact .inr ⟨rfl, hcut.isLeap _⟩

/-- The number of the date with a given number is that number. -/
theorem toDays_ofDays (days : Int) : (ofDays days).toDays = days := by
  obtain ⟨year, day, hdate, hdays, hlow, hhigh⟩ := exists_ofDays_eq days
  rw [hdate, toDays_afterMarch year hlow (by omega), ← hdays]

/-- Every number is that of a date of the calendar. -/
theorem isValid_ofDays (days : Int) : (ofDays days).isValid = true := by
  obtain ⟨year, day, hdate, -, hlow, hhigh⟩ := exists_ofDays_eq days
  rw [hdate]
  exact isValid_afterMarch hlow hhigh

end Passbook.Date
