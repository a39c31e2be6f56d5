import Passbook.Instant.Basic
import Passbook.Text.Blank

/-! # Reading instants

The relaxed form of RFC 3339: blanks may stand before each number, before the separators of the
date and of the time, before the offset and at the end; date and time are parted by `T`, `t` or a
space; a year with a sign may have any number of digits; the offset may be `Z`, `UTC` or hours and
minutes, and the result is the same instant in UTC. -/

namespace Passbook.Instant

open Text

/-- The years that an instant may fall into. -/
def minYear : Int := -262143
def maxYear : Int := 262142

/-- A number of one to `width` digits after any blanks, and what follows. -/
def number? (width : Nat) (text : List Char) : Option (Nat × List Char) :=
  let text := trimLeft text
  let digits := (text.take width).takeWhile isDigit
  if digits.isEmpty then none else some (decimalValue digits, text.drop digits.length)

/-- A number as `number?` reads it that lies between two bounds. -/
def numberIn? (width low high : Nat) (text : List Char) : Option (Nat × List Char) :=
  (number? width text).filter fun result => low ≤ result.1 && result.1 ≤ high

/-- A year: up to four digits, or a sign and one digit or more. -/
def year? (text : List Char) : Option (Int × List Char) :=
  match trimLeft text with
  | '-' :: rest => signed (-1) rest
  | '+' :: rest => signed 1 rest
  | rest => (number? 4 rest).map fun result => (result.1, result.2)
where
  signed (sign : Int) (rest : List Char) : Option (Int × List Char) :=
    let digits := rest.takeWhile isDigit
    if digits.isEmpty then none
    else some (sign * decimalValue digits, rest.drop digits.length)

/-- The given separator after any blanks. -/
def separator? (c : Char) (text : List Char) : Option (List Char) :=
  match trimLeft text with
  | d :: rest => if d = c then some rest else none
  | [] => none

/-- The nanoseconds of a fraction, of which the first nine digits count; zero without a point. -/
def fraction? : List Char → Option (Nat × List Char)
  | '.' :: rest =>
    let digits := rest.takeWhile isDigit
    let kept := digits.take 9
    if digits.isEmpty then none
    else some (decimalValue kept * Nat.pow 10 (9 - kept.length), rest.drop digits.length)
  | text => some (0, text)

/-- The hours and minutes of an offset after its sign, in seconds. -/
def hoursAndMinutes? : List Char → Option (Nat × List Char)
  | a :: b :: rest => do
    let hours ← decimal? [a, b]
    match rest.dropWhile (fun c => c = ':' || isBlank c) with
    | c :: d :: rest => do
      let minutes ← decimal? [c, d]
      if minutes ≤ 59 then some (hours * 3600 + minutes * 60, rest) else none
    | _ => none
  | _ => none

/-- The offset from UTC in seconds: zero for `Z` and `UTC`, else a sign, hours and minutes. -/
def offset? (text : List Char) : Option (Int × List Char) :=
  match trimLeft text with
  | 'Z' :: rest | 'z' :: rest => some (0, rest)
  | a :: rest =>
    if (String.ofList ((a :: rest).take 3)).toUpper = "UTC" then some (0, (a :: rest).drop 3)
    else if a = '+' then (hoursAndMinutes? rest).map fun result => (result.1, result.2)
    else if a = '-' ∨ a = '\u2212' then
      (hoursAndMinutes? rest).map fun result => (-result.1, result.2)
    else none
  | [] => none

/-- Whether the instant lies in a year that can be represented. -/
def inRange (instant : Instant) : Bool :=
  (Date.toDays ⟨minYear, 1, 1⟩) * 86400 ≤ instant.seconds
    && instant.seconds < (Date.toDays ⟨maxYear + 1, 1, 1⟩) * 86400

/-- The instant with the given local date, second of the day, fraction and offset. -/
def ofLocal? (date : Date) (second nanos : Nat) (offset : Int) : Option Instant :=
  let instant : Instant := ⟨date.toDays * 86400 + second - offset, nanos⟩
  if minYear ≤ date.year ∧ date.year ≤ maxYear ∧ date.isValid = true ∧ offset.natAbs < 86400
      ∧ instant.inRange = true then some instant
  else none

/-- Reads an instant from the whole of a text. -/
def ofChars? (text : List Char) : Option Instant := do
  let (year, text) ← year? text
  let (month, text) ← numberIn? 2 1 12 (← separator? '-' text)
  let (day, text) ← numberIn? 2 1 31 (← separator? '-' text)
  let text ← match text with
    | 'T' :: rest | 't' :: rest | ' ' :: rest => some rest
    | _ => none
  let (hour, text) ← numberIn? 2 0 23 text
  let (minute, text) ← numberIn? 2 0 59 (← separator? ':' text)
  let (second, text) ← numberIn? 2 0 60 (← separator? ':' text)
  let (nanos, text) ← fraction? text
  let (offset, text) ← offset? text
  guard (trimLeft text).isEmpty
  let leap := second / 60
  ofLocal? ⟨year, month, day⟩ (hour * 3600 + minute * 60 + second - leap)
    (nanos + leap * 1000000000) offset

/-- Reads an instant from a text. -/
def ofText? (text : String) : Option Instant := ofChars? text.toList

end Passbook.Instant
