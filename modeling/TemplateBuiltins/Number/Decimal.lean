/-
# Number.Decimal -- decimals and the doubles nearest to them

A decimal is a signed `coefficient · 10 ^ exponent`.  `toDouble` is the double
nearest to it.  A decimal whose leading digit stands far above or below every
finite double is decided from the place of that digit alone, so that the cost of
reading a numeral does not grow with its exponent.
-/
import TemplateBuiltins.Number.Rounding

set_option autoImplicit false

namespace TemplateBuiltins

structure Decimal where
  negative : Bool
  coefficient : Nat
  exponent : Int
  deriving DecidableEq

namespace Decimal

/-- How many decimal digits `n` has; zero has one. -/
def digitCount (n : Nat) : Nat := (Text.digits n).length

/-- The exponent above the leading digit: the magnitude is less than ten to its power. -/
def ceiling (d : Decimal) : Int := digitCount d.coefficient + d.exponent

/-- From this ceiling on a decimal that is not zero is above every finite double. -/
def overflowCeiling : Int := 311

/-- Up to this ceiling a decimal is nearer to zero than to any other double. -/
def underflowCeiling : Int := -324

/-- The magnitude as a quotient of naturals. -/
def quotient (d : Decimal) : Nat × Nat :=
  match d.exponent with
  | .ofNat e => (d.coefficient * Nat.pow 10 e, 1)
  | .negSucc e => (d.coefficient, Nat.pow 10 (e + 1))

/-- The double nearest to a decimal. -/
def toDouble (d : Decimal) : Double :=
  if d.coefficient = 0 then .zero d.negative
  else if overflowCeiling ≤ d.ceiling then .infinite d.negative
  else if d.ceiling ≤ underflowCeiling then .zero d.negative
  else Double.ofQuotient d.negative d.quotient.1 d.quotient.2

end Decimal

end TemplateBuiltins
