/-
# Text.Blank -- blank characters and trimming

A character is blank if it is a space of any script, a line or paragraph
separator, or one of the control characters that separate.  Trimming removes the
blank characters at an end of a text and nothing else.
-/

set_option autoImplicit false

namespace TemplateBuiltins.Text

/-- The ranges of blank characters, ends included. -/
def blankRanges : List (Nat × Nat) := [
  (0x9, 0xd), (0x1c, 0x20), (0x85, 0x85), (0xa0, 0xa0), (0x1680, 0x1680),
  (0x2000, 0x200a), (0x2028, 0x2029), (0x202f, 0x202f), (0x205f, 0x205f), (0x3000, 0x3000)]

/-- Whether a code point lies in one of the ranges. -/
def inRanges (ranges : List (Nat × Nat)) (n : Nat) : Bool :=
  ranges.any fun r => r.1 ≤ n && n ≤ r.2

def isBlank (c : Char) : Bool := inRanges blankRanges c.toNat

def trimLeft (s : List Char) : List Char := s.dropWhile isBlank

def trimRight (s : List Char) : List Char := (s.reverse.dropWhile isBlank).reverse

def trim (s : List Char) : List Char := trimRight (trimLeft s)

/-- A text that trims to nothing. -/
def isAllBlank (s : List Char) : Bool := s.all isBlank

end TemplateBuiltins.Text
