/-
# Parameters -- which arguments a function takes

A function has a signature for each of its positions, or one for all arguments,
which makes those of the positions idle; and it can set a least number of
arguments.  The functions of the catalog are of two shapes: most have one signature
per position, the others take one or more arguments of one signature.
-/
import TemplateBuiltins.Builtin
import TemplateBuiltins.Signature

set_option autoImplicit false

namespace TemplateBuiltins

structure Parameters where
  positions : List Signature
  /-- The signature of all arguments, if there is one. -/
  variadic : Option Signature
  minimum : Option Int

namespace Parameters

/-- One signature per position. -/
def fixed (positions : List Signature) : Parameters := ⟨positions, none, none⟩

/-- One or more arguments of one signature. -/
def several (all : Signature) : Parameters := ⟨[], some all, some 1⟩

/-- The least number of arguments, if it is set and is not zero. -/
def floor? (p : Parameters) : Option Int := p.minimum.filter (· ≠ 0)

/-- The signature of the position with a given index. -/
def signatureAt? (p : Parameters) (index : Nat) : Option Signature :=
  match p.variadic with
  | some s => some s
  | none => p.positions[index]?

/-- The number of arguments that are passed on, if it is limited. -/
def limit? (p : Parameters) : Option Nat :=
  match p.variadic with
  | some _ => none
  | none => some p.positions.length

end Parameters

namespace Builtin

/-- The signature of every kind, as `typeof` lists them. -/
def anyKind : Signature := .anyOf .string [.number, .boolean, .array, .object, .null, .function]

def stringOrNumber : Signature := .anyOf .string [.number]

def parameters : Builtin → Parameters
  | .max | .min => .several (.only .number)
  | .sqrt | .ceil | .floor | .abs => .fixed [.only .number]
  | .lowercase | .uppercase | .number | .strip | .rstrip | .lstrip | .defined => .fixed [.only .string]
  | .str => .fixed [.anyOf .string [.number, .boolean, .null]]
  | .len => .fixed [.anyOf .string [.array]]
  | .split => .several stringOrNumber
  | .join => .fixed [.only .array, stringOrNumber]
  | .fromNow => .several (.only .string)
  | .typeof => .fixed [anyKind]

/-- Whether a function of the catalog looks at the context of its call. -/
def needsContext : Builtin → Bool
  | .fromNow | .defined => true
  | _ => false

end Builtin

end TemplateBuiltins
