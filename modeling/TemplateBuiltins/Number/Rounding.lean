/-
# Number.Rounding -- the nearest integer and the nearest double

A quotient is rounded to the nearest integer, a half to the even neighbour
(`roundQuotient`).  The double nearest to a quotient keeps the 53 leading binary
digits of its value in units of `2 ^ -1074`, rounded in the same way, or fewer
where the units run out; too large a value is infinite.
-/
import TemplateBuiltins.Number.Double

set_option autoImplicit false

namespace TemplateBuiltins

/-- The integer nearest to `num / den`; a half goes to the even neighbour. -/
def roundQuotient (num den : Nat) : Nat :=
  let whole := num / den
  let rest := num % den
  if 2 * rest < den then whole
  else if den < 2 * rest then whole + 1
  else whole + whole % 2

namespace Double

/-- How many binary digits of `whole` units are dropped to leave 53. -/
def dropped (whole : Nat) : Nat := whole.log2 - 52

/-- The double nearest to `num / den`, with a sign. -/
def ofQuotient (negative : Bool) (num den : Nat) : Double :=
  let p := dropped (num * unitsPerOne / den)
  let m := roundQuotient (num * unitsPerOne) (den * Nat.pow 2 p)
  let q : Int := minExponent + p
  if m = Nat.pow 2 53 then ofStandard negative (Nat.pow 2 52) (q + 1) else ofStandard negative m q

/-- The double nearest to an integer. -/
def ofInt (n : Int) : Double := ofQuotient (decide (n < 0)) n.natAbs 1

end Double

end TemplateBuiltins
