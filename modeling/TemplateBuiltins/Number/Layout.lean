/-
# Number.Layout -- how a decimal is written

A decimal is written positionally when the exponent of its leading digit lies
within the bounds of the layout, and otherwise with one digit before the point
and a power of ten after an `e`.  Layouts differ in those bounds, in whether a
positional integer keeps a fraction `.0`, in how many digits the exponent has at
least, and in the words for what is not a finite number; its sign the exponent
always has.
-/
import TemplateBuiltins.Number.Shortest

set_option autoImplicit false

namespace TemplateBuiltins

structure Layout where
  /-- The least leading exponent that is written positionally. -/
  lowest : Int
  /-- The least leading exponent above those written positionally. -/
  beyond : Int
  /-- Whether a positional integer keeps a fraction. -/
  keepsFraction : Bool
  exponentDigits : Nat
  nan : String
  infinity : String

namespace Layout

/-- The layout of numbers in JSON text. -/
def json : Layout := ⟨-4, 16, true, 2, "NaN", "Infinity"⟩

/-- The layout of numbers in messages. -/
def message : Layout := ⟨-4, 16, true, 2, "nan", "inf"⟩

/-- The layout of numbers in template text. -/
def template : Layout := ⟨-6, 21, false, 1, "NaN", "Infinity"⟩

def sign (negative : Bool) : List Char := if negative then ['-'] else []

/-- Digits with a point after the first `places`, and zeros where digits are missing. -/
def positional (layout : Layout) (ds : List Char) (lead : Int) : List Char :=
  match lead with
  | .ofNat e =>
    let whole := ds.take (e + 1) ++ List.replicate (e + 1 - ds.length) '0'
    let fraction := ds.drop (e + 1)
    if fraction.isEmpty then whole ++ (if layout.keepsFraction then ['.', '0'] else [])
    else whole ++ '.' :: fraction
  | .negSucc e => '0' :: '.' :: List.replicate e '0' ++ ds

/-- One digit, the others after a point, and the exponent. -/
def scientific (layout : Layout) (ds : List Char) (lead : Int) : List Char :=
  let fraction := match ds.drop 1 with
    | [] => []
    | rest => '.' :: rest
  ds.take 1 ++ fraction ++ 'e' :: (if lead < 0 then '-' else '+') ::
    Text.padded layout.exponentDigits lead.natAbs

/-- A decimal without zeros at the end of its coefficient. -/
def decimal (layout : Layout) (d : Decimal) : List Char :=
  let ds := Text.digits d.coefficient
  let lead := (ds.length : Int) - 1 + d.exponent
  sign d.negative ++
    (if layout.lowest ≤ lead ∧ lead < layout.beyond then layout.positional ds lead
      else layout.scientific ds lead)

/-- A double by its shortest decimal; a zero keeps its sign. -/
def double (layout : Layout) : Double → List Char
  | .nan => layout.nan.toList
  | .infinite negative => sign negative ++ layout.infinity.toList
  | .finite negative m q _ =>
    if m = 0 then layout.decimal ⟨negative, 0, 0⟩
    else layout.decimal (Double.shortest negative m q)

end Layout

end TemplateBuiltins
