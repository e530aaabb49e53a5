/-
# Builtin -- the functions of the catalog, by name

The catalog has nineteen functions.  They are listed in the order in which they
are defined: it is the order in which a context receives them and in which equally
good suggestions are made.
-/

set_option autoImplicit false

namespace TemplateBuiltins

inductive Builtin where
  | max
  | min
  | sqrt
  | ceil
  | floor
  | abs
  | lowercase
  | uppercase
  | str
  | number
  | len
  | strip
  | rstrip
  | lstrip
  | split
  | join
  | fromNow
  | typeof
  | defined
  deriving DecidableEq

namespace Builtin

def all : List Builtin := [
  .max, .min, .sqrt, .ceil, .floor, .abs, .lowercase, .uppercase, .str, .number, .len,
  .strip, .rstrip, .lstrip, .split, .join, .fromNow, .typeof, .defined]

def name : Builtin → String
  | .max => "max"
  | .min => "min"
  | .sqrt => "sqrt"
  | .ceil => "ceil"
  | .floor => "floor"
  | .abs => "abs"
  | .lowercase => "lowercase"
  | .uppercase => "uppercase"
  | .str => "str"
  | .number => "number"
  | .len => "len"
  | .strip => "strip"
  | .rstrip => "rstrip"
  | .lstrip => "lstrip"
  | .split => "split"
  | .join => "join"
  | .fromNow => "fromNow"
  | .typeof => "typeof"
  | .defined => "defined"

/-- The function of a given name; names are case-sensitive. -/
def ofName? (text : String) : Option Builtin :=
  all.find? fun b => b.name == text

theorem mem_all (b : Builtin) : b ∈ all := by cases b <;> decide

theorem ofName?_name (b : Builtin) : ofName? b.name = some b := by cases b <;> decide

end Builtin

end TemplateBuiltins
