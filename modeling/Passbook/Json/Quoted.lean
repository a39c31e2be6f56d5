import Passbook.Json.Reader
import Passbook.Text.Digits

/-! # Quoted texts

A quoted text between two quotes. A backslash starts an escape; the escape of a 16-bit unit has four
digits of base sixteen, and a unit that is the first half of a pair must be followed by the escape of
a second half. -/

namespace Passbook.Json

open Text

/-- What is wrong with the end of a text where four digits should stand, told by its length in
bytes. -/
def shortUnit (text : List Char) : ReadError :=
  if (String.ofList text).utf8ByteSize < 4 then .ended else .malformed

/-- The 16-bit unit written by four digits. -/
def unit? (a b c d : Char) : Option Nat := ofDigits? 16 hexDigit? 0 [a, b, c, d]

def isFirstHalf (unit : Nat) : Bool := 0xD800 ≤ unit && unit ≤ 0xDBFF

def isSecondHalf (unit : Nat) : Bool := 0xDC00 ≤ unit && unit ≤ 0xDFFF

/-- The character that a pair of units stands for. -/
def pairedChar (first second : Nat) : Char :=
  Char.ofNat ((first - 0xD800) * 0x400 + (second - 0xDC00) + 0x10000)

/-- The character of an escape of one letter. -/
def escaped? : Char → Option Char
  | '"' => some '"'
  | '\\' => some '\\'
  | '/' => some '/'
  | 'b' => some '\x08'
  | 'f' => some '\x0c'
  | 'n' => some '\n'
  | 'r' => some '\r'
  | 't' => some '\t'
  | _ => none

/-- What is wrong with a text that should go on with the escape of a second half. -/
def missingSecondHalf : List Char → ReadError
  | [] | ['\\'] => .ended
  | '\\' :: 'u' :: rest => shortUnit rest
  | _ => .malformed

/-- The characters up to the closing quote, and the text after it. -/
def quotedChars : List Char → Except ReadError (List Char × List Char)
  | [] => .error .ended
  | '"' :: rest => .ok ([], rest)
  | '\\' :: 'u' :: a :: b :: c :: d :: rest =>
    match unit? a b c d with
    | none => .error .malformed
    | some unit =>
      if isSecondHalf unit then .error .malformed
      else if isFirstHalf unit then
        match rest with
        | '\\' :: 'u' :: e :: f :: g :: h :: rest =>
          match (unit? e f g h).filter isSecondHalf with
          | none => .error .malformed
          | some second => (quotedChars rest).map fun result =>
              (pairedChar unit second :: result.1, result.2)
        | rest => .error (missingSecondHalf rest)
      else (quotedChars rest).map fun result => (Char.ofNat unit :: result.1, result.2)
  | '\\' :: 'u' :: rest => .error (shortUnit rest)
  | ['\\'] => .error .ended
  | '\\' :: c :: rest =>
    match escaped? c with
    | none => .error .malformed
    | some c => (quotedChars rest).map fun result => (c :: result.1, result.2)
  | c :: rest =>
    if c < ' ' then .error .malformed
    else (quotedChars rest).map fun result => (c :: result.1, result.2)

/-- The rest of a quoted text whose opening quote was taken. -/
def Reader.quotedRest : Reader (List Char) := fun text => quotedChars text

end Passbook.Json
