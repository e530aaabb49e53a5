/-
# Suggestion -- looking functions up by name

A name that is not in the catalog is answered with up to three names that are: the
most similar first, of equally similar ones the one defined first, and none that
is less than three fifths similar.  Similarity is compared exactly, as a fraction.
-/
import TemplateBuiltins.Failure
import TemplateBuiltins.Similarity

set_option autoImplicit false

namespace TemplateBuiltins

/-- A name with its similarity to a text, a fraction of a hundredth part. -/
structure Score where
  builtin : Builtin
  /-- Two hundred times the length of a longest common subsequence. -/
  common : Nat
  /-- The sum of the lengths. -/
  total : Nat

namespace Score

def of (name : List Char) (b : Builtin) : Score :=
  let other := b.name.toList
  ⟨b, 200 * Similarity.commonLength name other, name.length + other.length⟩

/-- The least similarity of a suggestion, in hundredths. -/
def cutoff : Nat := 60

def passes (s : Score) : Bool := cutoff * s.total ≤ s.common

/-- Whether one score is at least as good as another. -/
def atLeast (s t : Score) : Bool := t.common * s.total ≤ s.common * t.total

end Score

namespace Builtin

/-- The most suggestions that are made. -/
def suggestionLimit : Nat := 3

/-- The names most like a text. -/
def suggestions (name : String) : List Builtin :=
  let scores := (all.map (Score.of name.toList)).filter Score.passes
  ((scores.mergeSort Score.atLeast).take suggestionLimit).map Score.builtin

/-- The function of a name, or a failure that suggests others. -/
def find (name : String) : Except Failure Builtin :=
  match ofName? name with
  | some b => .ok b
  | none => .error (.unknownBuiltin name ((suggestions name).map Builtin.name))

end Builtin

end TemplateBuiltins
