/-
# Number.Text -- the text of a number in a template

Integers below 10^21 in magnitude, and doubles equal to one, are written by all
their digits; a zero has no sign.  Every other number is written by the shortest
decimal of its double, in the layout of template text.
-/
import TemplateBuiltins.Number.Basic
import TemplateBuiltins.Number.Layout

set_option autoImplicit false

namespace TemplateBuiltins.Number

/-- From this magnitude on numbers are written with an exponent. -/
def exactLimit : Nat := Nat.pow 10 21

/-- The integer that a double is, if it is one. -/
def integer? (x : Double) : Option Int :=
  match x.units? with
  | some n => if n % Double.unitsPerOne = 0 then some (n / Double.unitsPerOne) else none
  | none => none

def doubleText (x : Double) : List Char :=
  match integer? x with
  | some n => if n.natAbs < exactLimit then Text.signedDigits n else Layout.template.double x
  | none => Layout.template.double x

def text : Number → List Char
  | .int n => if n.natAbs < exactLimit then Text.signedDigits n else doubleText (Double.ofInt n)
  | .double x => doubleText x

end TemplateBuiltins.Number
