/-
# Value.Truth -- which values count as given

Null, false, zero of either sign, and whatever is empty count as missing where a
value may be left out; a chain is empty if all its mappings are.
-/
import TemplateBuiltins.Value.Basic

set_option autoImplicit false

namespace TemplateBuiltins

mutual

/-- Whether a mapping has no bindings at all. -/
def Mapping.isEmpty : Mapping → Bool
  | .entries _ fields => fields.list.isEmpty
  | .chain own parents => own.isEmpty && allEmpty parents

def allEmpty : List Mapping → Bool
  | [] => true
  | m :: rest => m.isEmpty && allEmpty rest

end

/-- Whether a value counts as given: what is null, false, zero or empty does not. -/
def Value.isTruthy : Value → Bool
  | .null => false
  | .boolean b => b
  | .string s => !s.isEmpty
  | .number n => !n.isZero
  | .array items | .tuple items => !items.isEmpty
  | .object m => !m.isEmpty
  | .function _ | .signature _ | .moment _ | .record _ | .foreign _ _ => true

end TemplateBuiltins
