/-
# Kind -- the seven kinds of template values

A value that a template can compute with has exactly one of seven kinds.  A kind
is written by its name, in lower case; the names are distinct (`ofName?_name`),
so a name determines its kind.
-/

set_option autoImplicit false

namespace TemplateBuiltins

/-- The kinds, in the order in which a value's kind is looked for. -/
inductive Kind where
  | string
  | number
  | boolean
  | array
  | object
  | function
  | null
  deriving DecidableEq

namespace Kind

def all : List Kind := [.string, .number, .boolean, .array, .object, .function, .null]

def name : Kind → String
  | .string => "string"
  | .number => "number"
  | .boolean => "boolean"
  | .array => "array"
  | .object => "object"
  | .function => "function"
  | .null => "null"

/-- The kind of a given name; names are case-sensitive. -/
def ofName? (text : String) : Option Kind :=
  all.find? fun k => k.name == text

theorem mem_all (k : Kind) : k ∈ all := by cases k <;> decide

theorem ofName?_name (k : Kind) : ofName? k.name = some k := by cases k <;> decide

end Kind

end TemplateBuiltins
