/-
# Number.Basic -- the numbers of template values

A number is an integer of any size or a double.  The two are compared by their
exact values: everything finite is a whole number of units of `2 ^ -1074`, and
lies between the two infinities.  `max` and `min` choose the first argument that
no other one exceeds, or undercuts; what is not a number prevails over all.
Rounding down and up is exact, and leaves infinities as they are.
-/
import TemplateBuiltins.Number.Root

set_option autoImplicit false

namespace TemplateBuiltins

inductive Number where
  | int (n : Int)
  | double (x : Double)
  deriving DecidableEq

/-- A place on the number line with both its ends. -/
inductive Place where
  | bottom
  | units (n : Int)
  | top
  deriving DecidableEq

namespace Place

def lt : Place → Place → Bool
  | .bottom, .bottom => false
  | .bottom, _ => true
  | .units _, .bottom => false
  | .units a, .units b => a < b
  | .units _, .top => true
  | .top, _ => false

end Place

namespace Number

def isNan : Number → Bool
  | .double x => x.isNan
  | .int _ => false

/-- Where a number lies; what is not a number lies nowhere. -/
def place? : Number → Option Place
  | .int n => some (.units (n * Double.unitsPerOne))
  | .double .nan => none
  | .double (.infinite negative) => some (if negative then .bottom else .top)
  | .double (.finite negative m q _) => some (.units (Text.withSign negative (Double.magnitude m q)))

/-- Whether one number is less than another, by their exact values. -/
def lt (a b : Number) : Bool :=
  match a.place?, b.place? with
  | some p, some q => p.lt q
  | _, _ => false

/-- Whether a number is zero, of either sign. -/
def isZero (a : Number) : Bool := a.place? == some (.units 0)

/-- The first of the numbers that `better` prefers no other to. -/
def best (better : Number → Number → Bool) (first : Number) (others : List Number) : Number :=
  others.foldl (fun chosen x => if better x chosen then x else chosen) first

/-- An extremum of numbers, the first of which is given apart. -/
def extremum (better : Number → Number → Bool) (first : Number) (others : List Number) : Number :=
  if (first :: others).any isNan then .double .nan else best better first others

def max (first : Number) (others : List Number) : Number := extremum (fun x y => y.lt x) first others

def min (first : Number) (others : List Number) : Number := extremum (fun x y => x.lt y) first others

def abs : Number → Number
  | .int n => .int n.natAbs
  | .double x => .double x.abs

/-- The greatest integer that is at most `n` units. -/
def floorUnits (n : Int) : Int := n.fdiv Double.unitsPerOne

/-- The least integer that is at least `n` units. -/
def ceilUnits (n : Int) : Int := -(-n).fdiv Double.unitsPerOne

/-- A number rounded to an integer by a rule on its units. -/
def roundWith (rule : Int → Int) : Number → Number
  | .int n => .int n
  | .double x =>
    match x.units? with
    | some n => .int (rule n)
    | none => .double x

def floor : Number → Number := roundWith floorUnits

def ceil : Number → Number := roundWith ceilUnits

/-- The double nearest to a number. -/
def toDouble : Number → Double
  | .int n => Double.ofInt n
  | .double x => x

/-- The square root of the double nearest to a number. -/
def sqrt (a : Number) : Double := a.toDouble.sqrt

end Number

end TemplateBuiltins
