/-
# Number.Double -- double precision numbers

A double is not a number, an infinity, or a signed `m · 2 ^ q` in standard form:
at most 53 binary digits, the exponent within its limits, and a leading digit
that is missing only at the least exponent.  Zero has two signs.

Every finite double is a whole number of units of `2 ^ -1074`.  Counting units
(`units`) turns the comparison of doubles with each other and with integers, and
rounding to an integer, into integer arithmetic.
-/
import TemplateBuiltins.Text.Digit

set_option autoImplicit false

namespace TemplateBuiltins

/-- The least exponent of a finite double. -/
abbrev Double.minExponent : Int := -1074

/-- The greatest exponent of a finite double. -/
abbrev Double.maxExponent : Int := 971

/-- Whether `m · 2 ^ q` is the standard form of a finite double. -/
def Double.Standard (m : Nat) (q : Int) : Prop :=
  m < Nat.pow 2 53 ∧ Double.minExponent ≤ q ∧ q ≤ Double.maxExponent ∧
    (Nat.pow 2 52 ≤ m ∨ q = Double.minExponent)

instance (m : Nat) (q : Int) : Decidable (Double.Standard m q) := by
  unfold Double.Standard; infer_instance

inductive Double where
  | nan
  | infinite (negative : Bool)
  | finite (negative : Bool) (m : Nat) (q : Int) (standard : Double.Standard m q)
  deriving DecidableEq

namespace Double

/-- How many units of `2 ^ -1074` make one. -/
def unitsPerOne : Nat := Nat.pow 2 1074

def zero (negative : Bool) : Double := .finite negative 0 minExponent (by decide)

/-- The double `m · 2 ^ q` of a standard form; what is beyond every standard form is infinite. -/
def ofStandard (negative : Bool) (m : Nat) (q : Int) : Double :=
  if h : Standard m q then .finite negative m q h else .infinite negative

def isNan : Double → Bool
  | .nan => true
  | _ => false

/-- The magnitude `m · 2 ^ q` in units of `2 ^ -1074`. -/
def magnitude (m : Nat) (q : Int) : Nat := m * Nat.pow 2 (q - minExponent).toNat

/-- The value of a finite double, in units of `2 ^ -1074`. -/
def units? : Double → Option Int
  | .finite negative m q _ => some (Text.withSign negative (magnitude m q))
  | _ => none

def abs : Double → Double
  | .nan => .nan
  | .infinite _ => .infinite false
  | .finite _ m q h => .finite false m q h

end Double

end TemplateBuiltins
