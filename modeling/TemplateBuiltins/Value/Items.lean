/-
# Value.Items -- what a value lists, one item after the other

A text lists its characters, an array its items, a mapping its keys, and a
signature its text and its kinds; a foreign value can list values, and other values
list nothing.  A list of texts can be told; where an item is no text, it is named by
its class (`Value.firstNoText?`).
-/
import TemplateBuiltins.Value.Kinds
import TemplateBuiltins.Value.Literal
import TemplateBuiltins.Value.Mapping

set_option autoImplicit false

namespace TemplateBuiltins

/-- The value that a key is. -/
def Key.value : Key → Value
  | .text s => .string s
  | .other k => .foreign ⟨k.typeName, k.typeName, k.literal, k.literal.getD ""⟩ none

/-- A signature as the pair that it is: its text, and its kinds as a set. -/
def Signature.items (s : Signature) : List Value :=
  let shown := String.ofList s.kindsLiteral
  [.ofText s.text, .foreign ⟨"frozenset", "frozenset", some shown, shown⟩
    (some (s.distinct.map fun k => .string k.name))]

def Mapping.className : Mapping → String
  | .entries .readOnly _ => "mappingproxy"
  | .entries _ _ => "dict"
  | .chain _ _ => "ChainMap"

namespace Value

/-- The items that a value lists, if it is one that lists items. -/
def items? : Value → Option (List Value)
  | .string s => some (s.toList.map fun c => .ofText [c])
  | .array items | .tuple items => some items
  | .object m => some (m.bindings.names.map Key.value)
  | .signature s => some s.items
  | .foreign _ items => items
  | _ => none

/-- The name of a value's class, with its module where it has one. -/
def className : Value → String
  | .null => "NoneType"
  | .boolean _ => "bool"
  | .string _ => "str"
  | .number (.int _) => "int"
  | .number (.double _) => "float"
  | .array _ => "list"
  | .tuple _ => "tuple"
  | .object m => m.className
  | .function (.builtin _) => "function"
  | .function .native => "builtin_function_or_method"
  | .signature _ => "TypeSignature"
  | .moment _ => "datetime.datetime"
  | .record _ => "types.SimpleNamespace"
  | .foreign f _ => f.className

/-- The first of some values that is no text, with its index, counted from `index` on. -/
def firstNoText? (index : Nat) : List Value → Option (Nat × Value)
  | [] => none
  | .string _ :: rest => firstNoText? (index + 1) rest
  | v :: _ => some (index, v)

end Value

end TemplateBuiltins
