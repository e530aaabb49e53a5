/-
# Value.Basic -- template values and the values around them

Besides what JSON text can denote a template meets functions, and mappings that
are not plain objects: read-only ones, callable ones, and chains, which look up in
their own mapping first and then in their parents.  A mapping can have keys that are no
texts.  Contexts can also hold values that no template can compute with: moments, plain
objects with attributes, and foreign values of a named type, which are known by the texts
that are shown of them.
-/
import TemplateBuiltins.Builtin
import TemplateBuiltins.Calendar.Moment
import TemplateBuiltins.Number.Basic
import TemplateBuiltins.Signature
import TemplateBuiltins.Table

set_option autoImplicit false

namespace TemplateBuiltins

/-- The functions that a value can be. -/
inductive Function where
  | builtin (b : Builtin)
  /-- A function from outside the catalog, which tells a length. -/
  | native
  deriving DecidableEq

/-- The forms of a mapping with entries of its own. -/
inductive ObjectForm where
  | plain
  | readOnly
  | callable
  deriving DecidableEq

/-- What is known of a value that no template can compute with. -/
structure Foreign where
  typeName : String
  /-- The name of its class, with its module where it has one. -/
  className : String
  /-- How messages show it, if it can be shown. -/
  literal : Option String
  /-- Its plain text. -/
  plain : String
  deriving DecidableEq

/-- What is known of a key that is no text. -/
structure OtherKey where
  typeName : String
  /-- How messages show it, if it can be shown. -/
  literal : Option String
  /-- The name that stands for it in JSON text, if one does. -/
  member : Option String
  deriving DecidableEq

/-- What a mapping binds values to. -/
inductive Key where
  | text (s : String)
  | other (k : OtherKey)
  deriving DecidableEq

mutual

inductive Value where
  | null
  | boolean (b : Bool)
  | string (s : String)
  | number (n : Number)
  | array (items : List Value)
  | tuple (items : List Value)
  | object (m : Mapping)
  | function (f : Function)
  | signature (s : Signature)
  | moment (z : ZonedMoment)
  /-- A plain object with attributes. -/
  | record (attributes : Table String Value)
  /-- A value that no template can compute with, and what it lists, if it lists something. -/
  | foreign (f : Foreign) (items : Option (List Value))

inductive Mapping where
  | entries (form : ObjectForm) (fields : Table Key Value)
  /-- A mapping in front of others, in which it looks for names of which it has none. -/
  | chain (own : Mapping) (parents : List Mapping)

end

instance : Inhabited Value := ⟨.null⟩

instance : Inhabited Mapping := ⟨.entries .plain .empty⟩

namespace Value

def ofText (s : List Char) : Value := .string (String.ofList s)

def int (n : Int) : Value := .number (.int n)

def double (x : Double) : Value := .number (.double x)

/-- The plain object with given fields. -/
def ofFields (fields : Table Key Value) : Value := .object (.entries .plain fields)

end Value

end TemplateBuiltins
