/-! # Blank characters

The characters with the Unicode property `White_Space`, and texts with such characters removed
from one end or from both. -/

namespace Passbook.Text

/-- The ranges of code points with the property `White_Space`, first and last, in order. -/
def blankRanges : List (Nat × Nat) :=
  [(0x9, 0xD), (0x20, 0x20), (0x85, 0x85), (0xA0, 0xA0), (0x1680, 0x1680), (0x2000, 0x200A),
    (0x2028, 0x2029), (0x202F, 0x202F), (0x205F, 0x205F), (0x3000, 0x3000)]

example : (blankRanges.map fun range => range.2 + 1 - range.1).sum = 25 := by decide

/-- Whether a character is blank. -/
def isBlank (c : Char) : Bool :=
  blankRanges.any fun range => range.1 ≤ c.toNat && c.toNat ≤ range.2

/-- The text without the blanks that it starts with. -/
def trimLeft (text : List Char) : List Char := text.dropWhile isBlank

/-- The text without the blanks at its two ends. -/
def trim (text : List Char) : List Char := (trimLeft (trimLeft text).reverse).reverse

end Passbook.Text
