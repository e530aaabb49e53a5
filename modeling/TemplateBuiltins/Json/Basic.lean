/-
# Json.Basic -- JSON values

The numbers of a JSON value are integers of any size or doubles, among them the
infinities and what is not a number; the members of an object are kept in order, and
JSON text may have several of one name.
-/
import TemplateBuiltins.Number.Basic

set_option autoImplicit false

namespace TemplateBuiltins

inductive Json where
  | null
  | boolean (b : Bool)
  | number (n : Number)
  | string (s : String)
  | array (items : List Json)
  | object (members : List (String × Json))

end TemplateBuiltins
