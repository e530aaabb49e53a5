/-
# Value.Kinds -- which values have which kind

Each kind has a test.  A callable value is a function only if it passes no other
test, as callable objects do.  No value passes two tests; the kind of a value is
that of the test it passes (`kind?`), and values that pass none are named by their
type in messages (`kindName`).
-/
import TemplateBuiltins.Value.Basic

set_option autoImplicit false

namespace TemplateBuiltins

namespace Value

def isString : Value → Bool
  | .string _ => true
  | _ => false

def isNumber : Value → Bool
  | .number _ => true
  | _ => false

def isBoolean : Value → Bool
  | .boolean _ => true
  | _ => false

/-- Tuples are arrays, and so are signatures, which pair a text with kinds. -/
def isArray : Value → Bool
  | .array _ | .tuple _ | .signature _ => true
  | _ => false

def isObject : Value → Bool
  | .object _ => true
  | _ => false

def isNull : Value → Bool
  | .null => true
  | _ => false

/-- Whether a value can be called. -/
def isCallable : Value → Bool
  | .function _ => true
  | .object (.entries .callable _) => true
  | _ => false

def isFunction (v : Value) : Bool :=
  v.isCallable && !(v.isString || v.isNumber || v.isBoolean || v.isArray || v.isObject)

/-- The test of a kind. -/
def hasKind (v : Value) : Kind → Bool
  | .string => v.isString
  | .number => v.isNumber
  | .boolean => v.isBoolean
  | .array => v.isArray
  | .object => v.isObject
  | .function => v.isFunction
  | .null => v.isNull

/-- The kind of a value, if a template can compute with it. -/
def kind? (v : Value) : Option Kind := Kind.all.find? v.hasKind

/-- The name of the type of a value without a kind. -/
def typeName : Value → String
  | .moment _ => "datetime"
  | .record _ => "SimpleNamespace"
  | .foreign f _ => f.typeName
  | _ => ""

/-- The name of a value's kind, or of its type if it has no kind. -/
def kindName (v : Value) : String :=
  match v.kind? with
  | some k => k.name
  | none => v.typeName

/-- The attribute that marks the functions of the catalog. -/
def builtinMark : String := "jte_builtin"

/-- Whether a value bears the mark of the catalog, as a plain object can too. -/
def isBuiltin : Value → Bool
  | .function (.builtin _) => true
  | .record attributes =>
    match attributes.get? builtinMark with
    | some (.boolean marked) => marked
    | _ => false
  | _ => false

end Value

/-- Whether a value has one of a signature's kinds. -/
def Signature.matchesValue (s : Signature) (v : Value) : Bool := s.alternatives.any v.hasKind

end TemplateBuiltins
