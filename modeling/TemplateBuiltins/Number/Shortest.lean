/-
# Number.Shortest -- the shortest decimal that reads back

Among the decimals whose nearest double is `x`, the shortest has the fewest
digits, and among those with as few it is the one nearest to `x`.  For each
number of digits only the two neighbours of `x` among the decimals of that many
digits come into question, and the nearer is tried first (a tie goes to the even
one).  Reading back is the test itself, so the result reads back by construction.
Seventeen digits are always enough; behind them stands the exact decimal of `x`.
-/
import TemplateBuiltins.Number.Decimal

set_option autoImplicit false

namespace TemplateBuiltins

/-- The exponent of the leading decimal digit of a positive number of units. -/
def leadingExponent (units : Nat) : Int :=
  (Decimal.digitCount (units * Nat.pow 10 324 / Double.unitsPerOne) : Int) - 325

/-- A number of units as a quotient of multiples of `10 ^ k`. -/
def overTenTo (units : Nat) (k : Int) : Nat × Nat :=
  match k with
  | .ofNat k => (units, Double.unitsPerOne * Nat.pow 10 k)
  | .negSucc k => (units * Nat.pow 10 (k + 1), Double.unitsPerOne)

/-- The two multiples of `10 ^ k` beside a number of units, the nearer first. -/
def neighbours (units : Nat) (k : Int) : List Nat :=
  let p := overTenTo units k
  let near := roundQuotient p.1 p.2
  let below := p.1 / p.2
  [near, if near = below then below + 1 else below]

/-- The decimals of so many digits beside a number of units whose leading exponent is `lead`. -/
def candidates (negative : Bool) (units : Nat) (lead : Int) (digits : Nat) : List Decimal :=
  let k := lead - (digits : Int) + 1
  (neighbours units k).map fun c => ⟨negative, c, k⟩

/-- The decimal that a finite double is. -/
def exactDecimal (negative : Bool) (units : Nat) : Decimal :=
  ⟨negative, units * Nat.pow 5 1074, Double.minExponent⟩

/-- The same decimal without zeros at the end of its coefficient. -/
def Decimal.strip (d : Decimal) : Decimal :=
  if 0 < d.coefficient ∧ d.coefficient % 10 = 0 then
    strip ⟨d.negative, d.coefficient / 10, d.exponent + 1⟩
  else d
termination_by d.coefficient
decreasing_by omega

namespace Double

/-- The shortest decimal that reads back as the finite double `m · 2 ^ q`. -/
def shortest (negative : Bool) (m : Nat) (q : Int) : Decimal :=
  let x := ofStandard negative m q
  let units := magnitude m q
  let lead := leadingExponent units
  let found := (List.range 17).findSome? fun n =>
    (candidates negative units lead (n + 1)).find? fun d => d.toDouble == x
  (found.getD (exactDecimal negative units)).strip

end Double

end TemplateBuiltins
