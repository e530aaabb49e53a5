/-
# Context -- what a function sees of the context of its call

A context is any value.  A mapping binds names; a chain binds those of its own
mapping and inherits those of its parents, but owns only the former (`Value.own`).
A plain object owns its attributes, a function of the catalog its mark and its
description, and other values own nothing.  Functions of the catalog look at a context in two ways only: which names
it owns, and what it holds under `now`, inherited or not (`Value.now`).

`Value.merged` is the catalog with the bindings a context owns put over it.  A context
that counts as missing, with nothing of its own and nothing inherited, leaves the catalog
as it is.
-/
import TemplateBuiltins.Parameters
import TemplateBuiltins.Value.Kinds
import TemplateBuiltins.Value.Mapping
import TemplateBuiltins.Value.Truth

set_option autoImplicit false

namespace TemplateBuiltins

/-- A value, or null where there is none. -/
def Value.orNull {α : Type} (f : α → Value) (x : Option α) : Value := (x.map f).getD .null

/-- The description that a function of the catalog carries, a native function at its end. -/
def Builtin.description (b : Builtin) : Value :=
  .tuple [.string b.name, .tuple (b.parameters.positions.map .signature), .orNull .int b.parameters.minimum,
    .orNull .signature b.parameters.variadic, .boolean b.needsContext, .function .native]

/-- The attributes of a function of the catalog: its mark, and its description. -/
def Function.attributes : Function → Table Key Value
  | .builtin b => .ofEntries [(.text Value.builtinMark, .boolean true), (.text "builtin_spec", b.description)]
  | .native => .empty

namespace Value

/-- Attributes as the bindings of a mapping. -/
def ofAttributes (attributes : Table String Value) : Table Key Value :=
  .ofEntries (attributes.list.map fun e => (.text e.1, e.2))

/-- The bindings that belong to a context itself. -/
def own : Value → Table Key Value
  | .object m => m.own
  | .record attributes => ofAttributes attributes
  | .function f => f.attributes
  | _ => .empty

/-- Whether a context owns a name. -/
def owns (context : Value) (name : String) : Bool := context.own.list.binds (.text name)

/-- What a context holds under `now`, null if there is nothing; a moment holds a function there. -/
def now : Value → Value
  | .object m => (m.get? (.text "now")).getD .null
  | .record attributes => (attributes.get? "now").getD .null
  | .moment _ => .function .native
  | _ => .null

/-- The functions of the catalog by name, in its order. -/
def catalog : Table Key Value := .ofEntries (Builtin.all.map fun b => (.text b.name, .function (.builtin b)))

/-- The catalog under the bindings that a context owns, if it is given at all. -/
def merged (context : Value) : Table Key Value :=
  if context.isTruthy then catalog.update context.own else catalog

end Value

end TemplateBuiltins
