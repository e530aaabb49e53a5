/-
# Number.Numeral -- reading a number from text

Blanks around the text do not count, and an empty text is zero.  Then there are
three forms:

* the word `Infinity`, with or without a sign;
* `0x`, `0o` or `0b` and digits of base sixteen, eight or two, without a sign;
* a decimal numeral: a sign if any, digits with or without a point among or
  before them, and an exponent if any, all in the digits of any script.

A decimal numeral with neither point nor exponent is an integer if its magnitude
is at most the largest double and it has not too many digits; every other is the
double nearest to it.  What has none of the forms is read as not a number.
-/
import TemplateBuiltins.Number.Basic
import TemplateBuiltins.Number.Decimal
import TemplateBuiltins.Text.Blank

set_option autoImplicit false

namespace TemplateBuiltins

/-- A decimal numeral, as it is written. -/
structure Numeral where
  negative : Bool
  whole : List Char
  fraction : Option (List Char)
  exponent : Option Int

namespace Numeral

/-- The magnitude of the largest double. -/
def largestDouble : Nat := (Nat.pow 2 53 - 1) * Nat.pow 2 971

/-- Whether a text begins with a minus, and the text behind its sign. -/
def takeSign : List Char → Bool × List Char
  | '-' :: rest => (true, rest)
  | '+' :: rest => (false, rest)
  | s => (false, s)

/-- The exponent behind a mantissa: none if nothing is left. -/
def exponent? : List Char → Option (Option Int)
  | [] => some none
  | e :: rest =>
    let (negative, ds) := takeSign rest
    if (e = 'e' ∨ e = 'E') ∧ !ds.isEmpty ∧ ds.all Text.isDigit then
      some (some (Text.withSign negative (Text.digitsValue ds)))
    else none

/-- The decimal numeral that a text is. -/
def ofText? (s : List Char) : Option Numeral :=
  let (negative, s) := takeSign s
  let whole := s.takeWhile Text.isDigit
  match s.dropWhile Text.isDigit with
  | '.' :: s =>
    let fraction := s.takeWhile Text.isDigit
    if whole.isEmpty && fraction.isEmpty then none
    else (exponent? (s.dropWhile Text.isDigit)).map fun e => ⟨negative, whole, some fraction, e⟩
  | s =>
    if whole.isEmpty then none
    else (exponent? s).map fun e => ⟨negative, whole, none, e⟩

/-- The decimal that a numeral denotes. -/
def decimal (n : Numeral) : Decimal :=
  let fraction := n.fraction.getD []
  ⟨n.negative, Text.digitsValue (n.whole ++ fraction), n.exponent.getD 0 - fraction.length⟩

/-- The number that a numeral denotes. -/
def number (n : Numeral) : Number :=
  let magnitude := Text.digitsValue n.whole
  if n.fraction.isNone ∧ n.exponent.isNone ∧ n.whole.length ≤ Text.digitLimit ∧ magnitude ≤ largestDouble then
    .int (Text.withSign n.negative magnitude)
  else .double n.decimal.toDouble

end Numeral

namespace Number

/-- The value of a digit of a base up to sixteen, in ASCII. -/
def baseDigit? (base : Nat) (c : Char) : Option Nat :=
  let value :=
    if 'a' ≤ c ∧ c ≤ 'f' then some (c.toNat - 'a'.toNat + 10)
    else if 'A' ≤ c ∧ c ≤ 'F' then some (c.toNat - 'A'.toNat + 10)
    else Text.asciiDigit? c
  value.filter (· < base)

/-- The base that a letter behind a zero announces. -/
def base? (c : Char) : Option Nat :=
  if c = 'x' ∨ c = 'X' then some 16
  else if c = 'o' ∨ c = 'O' then some 8
  else if c = 'b' ∨ c = 'B' then some 2
  else none

/-- The integer that a text with a base denotes. -/
def based? : List Char → Option Nat
  | '0' :: letter :: ds => do
    let base ← base? letter
    if ds.isEmpty then none
    else
      let values ← ds.mapM (baseDigit? base)
      some (values.foldl (fun n d => base * n + d) 0)
  | _ => none

/-- The infinity that a text names. -/
def infinity? (s : List Char) : Option Double :=
  let (negative, word) := Numeral.takeSign s
  if word = "Infinity".toList then some (.infinite negative) else none

/-- The number that a text without blanks around it denotes. -/
def ofTrimmed (s : List Char) : Number :=
  if s.isEmpty then .int 0
  else
    match infinity? s, based? s, Numeral.ofText? s with
    | some x, _, _ => .double x
    | none, some n, _ => .int n
    | none, none, some n => n.number
    | none, none, none => .double .nan

def ofText (s : List Char) : Number := ofTrimmed (Text.trim s)

end Number

end TemplateBuiltins
