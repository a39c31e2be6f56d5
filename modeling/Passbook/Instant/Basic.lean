import Passbook.Calendar
import Passbook.Text.Digits

/-! # Instants

Points of time to the nanosecond, counted in UTC from 1970-01-01T00:00:00Z, and their written form
of RFC 3339. A leap second shares the number of the second before it and has a fraction of one
second or more, which is how it is told apart, ordered and written as second 60. -/

namespace Passbook

structure Instant where
  seconds : Int
  nanos : Nat
  deriving DecidableEq, Repr

namespace Instant

open Text

/-- The start of the year 2025. -/
def startOf2025 : Instant := ⟨1735689600, 0⟩

/-- Instants in the order in which they come. -/
def le (a b : Instant) : Bool :=
  a.seconds < b.seconds || (a.seconds == b.seconds && a.nanos ≤ b.nanos)

/-- The instant a number of microseconds later, or earlier if the number is negative. -/
def addMicros (instant : Instant) (micros : Int) : Instant :=
  let nanos := instant.nanos + micros * 1000
  ⟨instant.seconds + nanos / 1000000000, (nanos % 1000000000).toNat⟩

/-- The date of the instant in UTC. -/
def date (instant : Instant) : Date := Date.ofDays (instant.seconds / 86400)

/-- The number of the second within its day, from 0. -/
def secondOfDay (instant : Instant) : Nat := (instant.seconds % 86400).toNat

/-- Four digits, or a sign and at least four digits for a year that needs more. -/
def yearText (year : Int) : String :=
  if 0 ≤ year ∧ year ≤ 9999 then padded 4 year.toNat
  else (if year < 0 then "-" else "+") ++ padded 4 year.natAbs

/-- The fraction of a second with the fewest of 0, 3, 6 or 9 digits that keep it exact. -/
def fractionText (nanos : Nat) : String :=
  if nanos = 0 then ""
  else if nanos % 1000000 = 0 then "." ++ padded 3 (nanos / 1000000)
  else if nanos % 1000 = 0 then "." ++ padded 6 (nanos / 1000)
  else "." ++ padded 9 nanos

/-- The written form, as in `2025-01-01T00:00:04.500Z`. -/
def text (instant : Instant) : String :=
  let date := instant.date
  let second := instant.secondOfDay
  let leap := instant.nanos / 1000000000
  yearText date.year ++ "-" ++ padded 2 date.month ++ "-" ++ padded 2 date.day ++ "T"
    ++ padded 2 (second / 3600) ++ ":" ++ padded 2 (second / 60 % 60) ++ ":"
    ++ padded 2 (second % 60 + leap) ++ fractionText (instant.nanos % 1000000000) ++ "Z"

instance : ToString Instant := ⟨text⟩

end Instant

end Passbook
