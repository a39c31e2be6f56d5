import Passbook.Money

/-! # Reading JSON text

A text is read once from left to right, and the first problem met decides how it fails: the text
ended too early, it is not JSON, or it is JSON of the wrong type or content for what is read. This
module has the type of readers and the readers of single characters and fixed words. -/

namespace Passbook.Json

/-- Why a text that is JSON so far does not fit what is read. -/
inductive Mismatch
  | money (error : MoneyError)
  | missingField (name : String)
  | duplicateField (name : String)
  | unknownVariant (found : String) (known : List String)
  | other
  deriving DecidableEq, Repr

/-- The wording of a mismatch, where it has one of its own. -/
def Mismatch.message? : Mismatch → Option String
  | money error => some error.message
  | missingField name => some s!"missing field `{name}`"
  | duplicateField name => some s!"duplicate field `{name}`"
  | unknownVariant found known =>
    some (s!"unknown variant `{found}`, expected "
      ++ " or ".intercalate (known.map fun name => s!"`{name}`"))
  | other => none

/-- The first problem met in a text. -/
inductive ReadError
  | ended
  | malformed
  | mismatch (cause : Mismatch)
  deriving DecidableEq, Repr

/-- Takes a value off the front of a text. -/
abbrev Reader := StateT (List Char) (Except ReadError)

/-- The blanks that may stand between the parts of a text. -/
def isSpace (c : Char) : Bool := c == ' ' || c == '\n' || c == '\t' || c == '\r'

namespace Reader

/-- Skips blanks and shows the character after them, which stays in the text. -/
def peek? : Reader (Option Char) := do
  modify (List.dropWhile isSpace)
  return (← get).head?

/-- Shows the character after the blanks of a text that must not end. -/
def peek : Reader Char := do
  match ← peek? with
  | some c => return c
  | none => throw .ended

/-- Removes one character. -/
def advance : Reader Unit := modify (List.drop 1)

/-- Takes the given character after any blanks. -/
def expect (c : Char) : Reader Unit := do
  if (← peek) = c then advance else throw .malformed

/-- Takes the characters of a fixed word one by one. -/
def word (letters : List Char) : Reader Unit :=
  letters.forM fun letter => do
    match ← get with
    | [] => throw .ended
    | c :: rest => if c = letter then set rest else throw .malformed

/-- Reads the whole of a text, which may have blanks after the value and nothing else. -/
def whole {α : Type} (reader : Reader α) (text : String) : Except ReadError α := do
  let (value, rest) ← reader.run text.toList
  if rest.all isSpace then return value else throw .malformed

end Reader

end Passbook.Json
