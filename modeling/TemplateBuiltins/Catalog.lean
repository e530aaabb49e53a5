/-
# Catalog -- the functions that templates can call

Each function of the catalog has a definition, which checks its arguments, and a
body.  A body is written for the arguments that pass the check; other lists it
refuses as misapplied.  The functions on numbers follow exact values
(`Number.max`, `Number.floor`), those on texts the character tables, and `number`
reads what `str` writes.  What the clock shows is given with a call; only `fromNow`
looks at it.
-/
import TemplateBuiltins.Context
import TemplateBuiltins.Definition
import TemplateBuiltins.Number.Numeral
import TemplateBuiltins.RelativeTime
import TemplateBuiltins.Rendering
import TemplateBuiltins.Text.Letter

set_option autoImplicit false

namespace TemplateBuiltins

namespace Catalog

/-! ## Shapes of bodies -/

/-- A body on one argument. -/
def ofOne (f : Value → Except Failure Value) : Body := .pure fun
  | [v] => f v
  | _ => .error .misapplied

/-- A body on one number. -/
def ofNumber (f : Number → Value) : Body := .pure fun
  | [.number n] => .ok (f n)
  | _ => .error .misapplied

/-- A body on one text. -/
def ofString (f : List Char → Value) : Body := .pure fun
  | [.string s] => .ok (f s.toList)
  | _ => .error .misapplied

/-- The numbers of a list that holds nothing else. -/
def numbers? : List Value → Option (List Number)
  | [] => some []
  | .number n :: rest => (numbers? rest).map (n :: ·)
  | _ => none

/-- A body on at least one number. -/
def ofNumbers (f : Number → List Number → Number) : Body := .pure fun args =>
  match numbers? args with
  | some (n :: rest) => .ok (.number (f n rest))
  | _ => .error .misapplied

/-! ## Bodies -/

/-- The length of a text in characters, or of an array in items. -/
def length : Value → Except Failure Value
  | .string s => .ok (.int s.length)
  | .array items | .tuple items => .ok (.int items.length)
  | .signature s => .ok (.int s.items.length)
  | _ => .error .misapplied

/-- A text or the text of a number. -/
def subject? : Value → Option (List Char)
  | .string s => some s.toList
  | .number n => some n.text
  | _ => none

/-- The pieces of a text at a delimiter, the whole text without one; further arguments do not count. -/
def split : List Value → Except Failure Value
  | [v] =>
    match subject? v with
    | some s => .ok (.array [.ofText s])
    | none => .error .misapplied
  | v :: d :: _ =>
    match subject? v, subject? d with
    | some s, some d => .ok (.array ((Text.cut d s).map .ofText))
    | _, _ => .error .misapplied
  | [] => .error .misapplied

/-- The items of an array. -/
def items? : Value → Option (List Value)
  | .array items | .tuple items => some items
  | .signature s => some s.items
  | _ => none

/-- The texts of the items with a separator between them. -/
def join : List Value → Except Failure Value
  | [a, d] =>
    match items? a, subject? d with
    | some items, some d => (itemTexts items).map fun texts => .ofText (Text.glue d texts)
    | _, _ => .error .misapplied
  | _ => .error .misapplied

/-- What a time is counted from: the reference, unless it is missing or empty, else the context's `now`. -/
def base (context : Value) : List Value → Value
  | v :: _ => if v.isTruthy then v else context.now
  | [] => context.now

def fromNow (clock : Moment) (context : Value) : List Value → Except Failure Value
  | .string offset :: rest => (RelativeTime.timestamp clock offset (base context rest)).map .ofText
  | _ => .error .misapplied

/-- The name of a value's kind; a value without a kind is refused, with a message that shows it. -/
def typeof (v : Value) : Except Failure Value :=
  match v.kind? with
  | some k => .ok (.string k.name)
  | none => do
    let literal ← v.shown
    .error (.noKind Builtin.typeof.name literal v.kindName)

def defined (context : Value) : List Value → Except Failure Value
  | [.string name] => .ok (.boolean (context.owns name))
  | _ => .error .misapplied

end Catalog

/-! ## Definitions -/

namespace Builtin

open Catalog in
/-- What a function of the catalog does with its arguments, at a clock that shows `clock`. -/
def body (clock : Moment) : Builtin → Body
  | .max => ofNumbers Number.max
  | .min => ofNumbers Number.min
  | .sqrt => ofNumber fun n => .double n.sqrt
  | .ceil => ofNumber fun n => .number n.ceil
  | .floor => ofNumber fun n => .number n.floor
  | .abs => ofNumber fun n => .number n.abs
  | .lowercase => ofString fun s => .ofText (Text.lower s)
  | .uppercase => ofString fun s => .ofText (Text.upper s)
  | .str => ofOne fun v => .ok (.ofText v.text)
  | .number => ofString fun s => .number (Number.ofText s)
  | .len => ofOne length
  | .strip => ofString fun s => .ofText (Text.trim s)
  | .rstrip => ofString fun s => .ofText (Text.trimRight s)
  | .lstrip => ofString fun s => .ofText (Text.trimLeft s)
  | .split => .pure Catalog.split
  | .join => .pure Catalog.join
  | .fromNow => .contextual (Catalog.fromNow clock)
  | .typeof => ofOne Catalog.typeof
  | .defined => .contextual Catalog.defined

theorem needsContext_body (clock : Moment) (b : Builtin) : (b.body clock).needsContext = b.needsContext := by
  cases b <;> rfl

/-- The definition of a function of the catalog. -/
def definition (clock : Moment) (b : Builtin) : Definition := ⟨b.parameters, b.name, b.body clock⟩

end Builtin

/-- Calls a function of the catalog, at a clock that shows `clock`. -/
def Builtin.call (clock : Moment) (b : Builtin) (context : Value) (args : List Value) : Except Failure Value :=
  (b.definition clock).call context args

/-- Calls a function; the native one tells how many bindings its context has, and takes no arguments. -/
def Function.call (clock : Moment) : Function → Value → List Value → Except Failure Value
  | .builtin b, context, args => b.call clock context args
  | .native, context, [] =>
    match context with
    | .object m => .ok (.int m.bindings.list.length)
    | v => Catalog.length v
  | .native, _, args =>
    let count := args.length + 1
    .error (.own "TypeError" s!"len() takes exactly one argument ({count} given)")

end TemplateBuiltins
