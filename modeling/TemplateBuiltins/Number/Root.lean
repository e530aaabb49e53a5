/-
# Number.Root -- square roots

The square root of a double is the double nearest to the exact root.  It is found
from the integer root of the value in units, scaled so that the integer root has
more binary digits than a double: a remainder counts as half of the last place,
which is enough to decide every rounding.  A negative value, and what is not a
number, has no root; the root of a zero is that zero.
-/
import TemplateBuiltins.Number.Rounding

set_option autoImplicit false

namespace TemplateBuiltins

/-- The greatest integer whose square is at most `n`. -/
def natRoot (n : Nat) : Nat :=
  if n = 0 then 0
  else
    let r := 2 * natRoot (n / 4)
    if (r + 1) * (r + 1) ≤ n then r + 1 else r
termination_by n
decreasing_by omega

namespace Double

/-- How many times the units are quartered before the integer root is taken. -/
def rootScale : Nat := 64

/-- The double nearest to the square root of `n` units. -/
def rootOfUnits (n : Nat) : Double :=
  let scaled := n * Nat.pow 4 rootScale
  let r := natRoot scaled
  let sticky := if r * r = scaled then 0 else 1
  ofQuotient false (2 * r + sticky) (Nat.pow 2 (537 + rootScale + 1))

def sqrt : Double → Double
  | .nan => .nan
  | .infinite negative => if negative then .nan else .infinite false
  | .finite negative m q h =>
    if m = 0 then .finite negative m q h
    else if negative then .nan
    else rootOfUnits (magnitude m q)

end Double

end TemplateBuiltins
