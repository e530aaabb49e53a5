/-
# Text.Letter -- small and capital letters

`lower` and `upper` map every character of a text by the case tables; a character
may become several.  One letter depends on its neighbours: a capital sigma
becomes the final small sigma at the end of a word (`endsWord`), that is, when
the nearest character before it that is not passed over has a case and the
nearest after it has none.
-/
import TemplateBuiltins.Text.Blank
import TemplateBuiltins.Text.LetterTable

set_option autoImplicit false

namespace TemplateBuiltins.Text

/-- What a character is mapped to by a table of shifts and a table of expansions. -/
def mapLetter (shifts : List LetterShift) (expansions : List (Nat × List Nat)) (c : Char) : List Char :=
  match expansions.lookup c.toNat with
  | some several => several.map Char.ofNat
  | none =>
    match shifts.find? (·.covers c.toNat) with
    | some r => [Char.ofNat (c.toNat + r.shift).toNat]
    | none => [c]

def isCased (c : Char) : Bool := inRanges casedRanges c.toNat

def isCaseIgnorable (c : Char) : Bool := inRanges caseIgnorableRanges c.toNat

/-- Whether the nearest character that is not passed over has a case. -/
def leadsCased (cs : List Char) : Bool :=
  match cs.dropWhile isCaseIgnorable with
  | c :: _ => isCased c
  | [] => false

/-- Whether a letter between `before` (nearest first) and `after` is the last of its word. -/
def endsWord (before after : List Char) : Bool :=
  leadsCased before && !leadsCased after

/-- The small form of a character between two texts. -/
def lowerLetter (before : List Char) (c : Char) (after : List Char) : List Char :=
  if c = 'Σ' then [if endsWord before after then 'ς' else 'σ']
  else mapLetter toLowerShifts toLowerExpansions c

/-- The small form of a text that stands after `before`, nearest first. -/
def lowerAfter (before : List Char) : List Char → List Char
  | [] => []
  | c :: rest => lowerLetter before c rest ++ lowerAfter (c :: before) rest

def lower (s : List Char) : List Char := lowerAfter [] s

def upper (s : List Char) : List Char := s.flatMap (mapLetter toUpperShifts toUpperExpansions)

end TemplateBuiltins.Text
