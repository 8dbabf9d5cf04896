import Mustache.Text.Ranges
/-!
White space as the Unicode property `White_Space` has it: twenty-five characters, six of them ASCII.
Names inside tags are trimmed with it and delimiters may not contain it.
-/
namespace Mustache.Text

/-- The runs of consecutive white-space characters, by first and last code point. -/
def blankRanges : List (Nat × Nat) :=
  [(0x09, 0x0D), (0x20, 0x20), (0x85, 0x85), (0xA0, 0xA0), (0x1680, 0x1680), (0x2000, 0x200A),
   (0x2028, 0x2029), (0x202F, 0x202F), (0x205F, 0x205F), (0x3000, 0x3000)]

/-- Whether a character is white space. -/
def isBlank (c : Char) : Bool := inRanges blankRanges c

/-- Drops the white space a text starts with. -/
def trimLeft (cs : List Char) : List Char := cs.dropWhile isBlank

/-- Drops the white space a text starts and ends with. -/
def trim (cs : List Char) : List Char := (trimLeft (trimLeft cs).reverse).reverse

end Mustache.Text
