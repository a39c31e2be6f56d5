import Passbook.Json.Quoted

/-! # Values passed over

The value of a field that nobody reads is passed over, however deep it nests. A machine takes the
text one character at a time: its state is what may come next, and a stack holds the kinds of the
lists and objects that are open. Numbers are not bounded and halves of pairs may stand alone, since
no number and no text is made of what is passed over. -/

namespace Passbook.Json

open Text

/-- A list or an object that is open. -/
inductive Frame
  | list
  | object
  deriving DecidableEq, Repr

/-- What may come next. -/
inductive Skip
  | value
  | opened
  | key
  | colon
  | after
  | text (isKey : Bool)
  | escape (isKey : Bool)
  | unit (isKey : Bool) (left : Nat)
  | word (letters : List Char)
  | minus
  | zero
  | digits
  | point
  | fraction
  | exponent
  | exponentSign
  | exponentDigits
  deriving DecidableEq, Repr

/-- What one character did: the value goes on, it ended with the character, or it had ended before
the character. -/
inductive Progress
  | more (state : Skip) (frames : List Frame)
  | last
  | before
  deriving DecidableEq, Repr

namespace Skip

/-- A value has ended with the character just taken. -/
def closed : List Frame → Progress
  | [] => .last
  | frames => .more after frames

/-- The state in which an element after a comma is read. -/
def element : Frame → Skip
  | .list => value
  | .object => key

/-- The bracket that closes a frame. -/
def closing : Frame → Char
  | .list => ']'
  | .object => '\x7d'

/-- A character after a value. -/
def stepAfter (c : Char) : List Frame → Except ReadError Progress
  | [] => .ok .before
  | frame :: frames =>
    if isSpace c then .ok (.more after (frame :: frames))
    else if c = ',' then .ok (.more (element frame) (frame :: frames))
    else if c = closing frame then .ok (closed frames)
    else .error .malformed

/-- A character where a value must start. -/
def stepValue (c : Char) (frames : List Frame) : Except ReadError Progress :=
  if isSpace c then .ok (.more value frames)
  else if c = 'n' then .ok (.more (word ['u', 'l', 'l']) frames)
  else if c = 't' then .ok (.more (word ['r', 'u', 'e']) frames)
  else if c = 'f' then .ok (.more (word ['a', 'l', 's', 'e']) frames)
  else if c = '-' then .ok (.more minus frames)
  else if c = '0' then .ok (.more zero frames)
  else if isDigit c then .ok (.more digits frames)
  else if c = '"' then .ok (.more (text false) frames)
  else if c = '[' then .ok (.more opened (.list :: frames))
  else if c = '\x7b' then .ok (.more opened (.object :: frames))
  else .error .malformed

/-- A character where a key must start. -/
def stepKey (c : Char) (frames : List Frame) : Except ReadError Progress :=
  if isSpace c then .ok (.more key frames)
  else if c = '"' then .ok (.more (text true) frames)
  else .error .malformed

/-- A character after the first digits of a number. -/
def stepNumber (again : Skip) (mayGoOn : Bool) (mayHavePoint : Bool) (c : Char)
    (frames : List Frame) : Except ReadError Progress :=
  if isDigit c then (if mayGoOn then .ok (.more again frames) else .error .malformed)
  else if mayHavePoint && c = '.' then .ok (.more point frames)
  else if again ≠ exponentDigits ∧ (c = 'e' ∨ c = 'E') then .ok (.more exponent frames)
  else stepAfter c frames

/-- The step that the machine makes on a character, given the text after it. -/
def step (state : Skip) (frames : List Frame) (c : Char) (rest : List Char) :
    Except ReadError Progress :=
  match state with
  | value => stepValue c frames
  | opened =>
    match frames with
    | [] => .error .malformed
    | frame :: outer =>
      if isSpace c then .ok (.more opened frames)
      else if c = closing frame then .ok (closed outer)
      else match frame with
        | .list => stepValue c frames
        | .object => stepKey c frames
  | key => stepKey c frames
  | colon =>
    if isSpace c then .ok (.more colon frames)
    else if c = ':' then .ok (.more value frames)
    else .error .malformed
  | after => stepAfter c frames
  | text isKey =>
    if c = '"' then .ok (if isKey then .more colon frames else closed frames)
    else if c = '\\' then .ok (.more (escape isKey) frames)
    else if c < ' ' then .error .malformed
    else .ok (.more (text isKey) frames)
  | escape isKey =>
    if c = 'u' then .ok (.more (unit isKey 4) frames)
    else if (escaped? c).isSome then .ok (.more (text isKey) frames)
    else .error .malformed
  | unit isKey left =>
    if left = 4 ∧ (String.ofList ((c :: rest).take 4)).utf8ByteSize < 4 then .error .ended
    else if (hexDigit? c).isSome then
      .ok (.more (if left ≤ 1 then text isKey else unit isKey (left - 1)) frames)
    else .error .malformed
  | word [] => stepAfter c frames
  | word [letter] => if c = letter then .ok (closed frames) else .error .malformed
  | word (letter :: letters) =>
    if c = letter then .ok (.more (word letters) frames) else .error .malformed
  | minus =>
    if c = '0' then .ok (.more zero frames)
    else if isDigit c then .ok (.more digits frames)
    else .error .malformed
  | zero => stepNumber zero false true c frames
  | digits => stepNumber digits true true c frames
  | point => if isDigit c then .ok (.more fraction frames) else .error .malformed
  | fraction => stepNumber fraction true false c frames
  | exponent =>
    if c = '+' ∨ c = '-' then .ok (.more exponentSign frames)
    else if isDigit c then .ok (.more exponentDigits frames)
    else .error .malformed
  | exponentSign => if isDigit c then .ok (.more exponentDigits frames) else .error .malformed
  | exponentDigits => stepNumber exponentDigits true false c frames

/-- What the end of the text means in a state. -/
def finish (state : Skip) (frames : List Frame) : Except ReadError (List Char) :=
  match state with
  | zero | digits | fraction | exponentDigits =>
    if frames.isEmpty then .ok [] else .error .ended
  | minus | point | exponent | exponentSign => .error .malformed
  | _ => .error .ended

/-- Runs the machine to the end of the value and returns the text after it. -/
def run (state : Skip) (frames : List Frame) : List Char → Except ReadError (List Char)
  | [] => finish state frames
  | c :: rest =>
    match step state frames c rest with
    | .error problem => .error problem
    | .ok (.more state frames) => run state frames rest
    | .ok .last => .ok rest
    | .ok .before => .ok (c :: rest)

end Skip

/-- Passes over one value. -/
def Reader.skipValue : Reader Unit := fun text =>
  (Skip.run .value [] text).map fun rest => ((), rest)

end Passbook.Json
