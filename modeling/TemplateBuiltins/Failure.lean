/-
# Failure -- why a call fails, and how that is reported

A failure is a cause: which rule of which function was broken, and by what.  Its
report has a family, a text and the attributes of that family; every member of the
family of failed calls knows the function at fault, whose name its message opens
with, except that a function nobody knows is reported with suggestions instead.
Some failures are of no such family: those of conversions between integers and decimal
text, and of keys that JSON text has no name for.  A declaration can fail too, if a
signature in it is none.
-/
import TemplateBuiltins.Value.Items
import TemplateBuiltins.Value.Literal
import TemplateBuiltins.Value.Truth

set_option autoImplicit false

namespace TemplateBuiltins

inductive Failure where
  /-- Fewer arguments than a function has fixed positions. -/
  | tooFew (builtin : String) (expected found : Nat)
  /-- Fewer arguments than the least number that a function takes. -/
  | belowMinimum (builtin : String) (expected : Int) (found : Nat)
  /-- The first argument whose kind its position does not admit, counted from one. -/
  | wrongKind (builtin : String) (position : Nat) (expected : Signature) (found : String)
  | noKind (builtin : String) (literal : List Char) (found : String)
  | unknownBuiltin (name : String) (suggestions : List String)
  | notAnOffset (text : String)
  | notATimestamp (literal : List Char)
  | offsetOutOfRange (text : String)
  /-- A moment that the calendar does not have in universal time. -/
  | momentOutOfRange
  | durationOutOfRange (days : Int)
  /-- An integer of more digits than are written, or than are read, where the number of its digits is told. -/
  | tooLong (digits : Option Nat)
  /-- A key that has no name in JSON text, by its type. -/
  | keyRefused (typeName : String)
  /-- Arguments that an implementation is never given after a check. -/
  | misapplied
  /-- A failure of an implementation's own, by its family and its text. -/
  | own (family text : String)

/-- A declaration's signature that is none, and why. -/
structure SignatureFault where
  given : Value
  cause : Signature.TextFault

namespace Failure

/-- The families of reports. -/
inductive Family where
  | arity
  | argumentType
  | invalidKind
  | relativeTime
  | invocation
  | unknownBuiltin
  | signature
  | overflow
  | other (name : String)
  deriving DecidableEq

/-- The general families that a family can belong to. -/
inductive Broad where
  | invocation
  | type
  | key
  | value
  deriving DecidableEq

namespace Family

def name : Family → String
  | .arity => "ArityError"
  | .argumentType => "ArgumentTypeError"
  | .invalidKind => "InvalidKindError"
  | .relativeTime => "RelativeTimeError"
  | .invocation => "BuiltinInvocationError"
  | .unknownBuiltin => "UnknownBuiltinError"
  | .signature => "SignatureError"
  | .overflow => "OverflowError"
  | .other name => name

/-- The general families of a family. -/
def within : Family → List Broad
  | .arity | .argumentType | .invalidKind => [.invocation, .type]
  | .relativeTime => [.invocation, .value]
  | .invocation => [.invocation]
  | .unknownBuiltin => [.invocation, .key]
  | .signature => [.value]
  | .overflow | .other _ => []

/-- Whether a family is one of failed calls. -/
def isInvocation (f : Family) : Bool := f.within.contains .invocation

/-- The attributes that a report of a family has. -/
def attributes : Family → List String
  | .arity => ["builtin", "expected", "found"]
  | .argumentType => ["builtin", "position", "expected", "found"]
  | .invalidKind | .relativeTime | .invocation => ["builtin"]
  | .unknownBuiltin => ["builtin", "suggestions"]
  | .signature => ["signature"]
  | .overflow | .other _ => []

/-- The family that settles which attributes a family has. -/
def settledBy : Family → Family
  | .invalidKind | .relativeTime => .invocation
  | f => f

/-- What is wrong with an attribute that a family has not. -/
def refusal (f : Family) (given : String) : Failure :=
  let settling := f.settledBy.name
  .own "TypeError"
    (if f.attributes.isEmpty then s!"{settling}() takes no keyword arguments"
    else if given = "self" || given = "message" then
      s!"{settling}.__init__() got multiple values for argument '{given}'"
    else s!"{settling}.__init__() got an unexpected keyword argument '{given}'")

end Family

structure Report where
  family : Family
  text : String
  attributes : Bindings String Value

namespace Report

/-- The value of an attribute, null if it is missing. -/
def valueOf (r : Report) (name : String) : Value := (r.attributes.get? name).getD .null

/-- What an attribute holds when a value is given for it; missing suggestions are an empty list. -/
def settled (name : String) (v : Value) : Value :=
  if name = "suggestions" && !v.isTruthy then .array [] else v

/-- A report of a family, with the attributes of that family among those given. -/
def make (family : Family) (text : String) (given : Bindings String Value) : Report :=
  ⟨family, text, family.attributes.map fun name => (name, settled name ((given.get? name).getD .null))⟩

/-- A report of a family, unless an attribute is given that the family has not. -/
def make? (family : Family) (text : String) (given : Bindings String Value) : Except Failure Report :=
  match given.names.find? fun name => !family.attributes.contains name with
  | some name => .error (family.refusal name)
  | none => .ok (make family text given)

/-- The texts of the suggestions. -/
def suggestions (r : Report) : List (List Char) :=
  ((r.valueOf "suggestions").items?.getD []).map Value.plain

/-- Why the message of a report cannot be told, if it cannot: its suggestions are no texts. -/
def fault? (r : Report) : Option Failure :=
  if r.family = .unknownBuiltin then
    match (r.valueOf "suggestions").items? with
    | none => some (.own "TypeError" "can only join an iterable")
    | some items => (Value.firstNoText? 0 items).map fun (index, v) =>
      .own "TypeError" s!"sequence item {index}: expected str instance, {v.className} found"
  else none

/-- The whole message of a report. -/
def message (r : Report) : List Char :=
  if r.family = .unknownBuiltin then
    match r.suggestions with
    | [] => r.text.toList
    | several => r.text.toList ++ listed " (did you mean: " several "?)"
  else if r.family.isInvocation then
    match r.valueOf "builtin" with
    | .null => r.text.toList
    | name => "builtin: ".toList ++ name.plain ++ [':', ' '] ++ r.text.toList
  else r.text.toList

end Report

/-- The limits of the machine integers that a number of days is kept in. -/
def machineDays (days : Int) : Bool := -2147483648 ≤ days && days < 2147483648

/-- The report of a failure. -/
def report : Failure → Report
  | .tooFew builtin expected found =>
    .make .arity s!"expected {expected} arguments, found {found}: too few arguments"
      [("builtin", .string builtin), ("expected", .int expected), ("found", .int found)]
  | .belowMinimum builtin expected found =>
    .make .arity s!"expected at least {expected} arguments, found {found}"
      [("builtin", .string builtin), ("expected", .int expected), ("found", .int found)]
  | .wrongKind builtin position expected found =>
    let text := String.ofList expected.text
    .make .argumentType s!"expected argument {position} to be {text}, found {found}"
      [("builtin", .string builtin), ("position", .int position), ("expected", .string text),
        ("found", .string found)]
  | .noKind builtin literal found =>
    let shown := String.ofList literal
    .make .invalidKind s!"expected argument {shown} to be a valid JSON-e type, found {found}"
      [("builtin", .string builtin)]
  | .unknownBuiltin name suggestions =>
    .make .unknownBuiltin s!"unknown builtin '{name}'"
      [("suggestions", .array (suggestions.map .string))]
  | .notAnOffset text =>
    .make .relativeTime s!"String: '{text}' isn't a time expression"
      [("builtin", .string Builtin.fromNow.name)]
  | .notATimestamp literal =>
    let shown := String.ofList literal
    .make .relativeTime s!"Reference time {shown} is not a valid timestamp"
      [("builtin", .string Builtin.fromNow.name)]
  | .offsetOutOfRange text =>
    .make .relativeTime s!"Offset '{text}' is out of range" [("builtin", .string Builtin.fromNow.name)]
  | .momentOutOfRange => .make .overflow "date value out of range" []
  | .durationOutOfRange days =>
    .make .overflow
      (if machineDays days then s!"days={days}; must have magnitude <= 999999999"
        else "Python int too large to convert to C int") []
  | .tooLong digits =>
    let counted := match digits with
      | some n => s!": value has {n} digits"
      | none => ""
    .make (.other "ValueError")
      s!"Exceeds the limit ({Text.digitLimit} digits) for integer string conversion{counted}; use sys.set_int_max_str_digits() to increase the limit"
      []
  | .keyRefused typeName =>
    .make (.other "TypeError") s!"keys must be str, int, float, bool or None, not {typeName}" []
  | .misapplied => .make (.other "TypeError") "an implementation was given arguments it does not take" []
  | .own family text => .make (.other family) text []

end Failure

namespace Value

/-- The literal of a value, for a message or for the log. -/
def shown (v : Value) : Except Failure (List Char) :=
  if v.isShowable then .ok v.literal else .error (.tooLong none)

end Value

/-- The report of a faulty declaration. -/
def SignatureFault.report (f : SignatureFault) : Failure.Report :=
  let text := match f.cause with
    | .blank => "Type signature must be a non-empty string."
    | .unknownKind name => let shown := String.ofList name; s!"Unknown value kind '{shown}'."
  .make .signature text [("signature", f.given)]

/-- The signature that a value denotes: a signature itself, or the text of one. -/
def Value.signature? : Value → Except SignatureFault Signature
  | .signature s => .ok s
  | .string text =>
    match Signature.ofText text.toList with
    | .ok s => .ok s
    | .error cause => .error ⟨.string text, cause⟩
  | v => .error ⟨v, .blank⟩

end TemplateBuiltins
