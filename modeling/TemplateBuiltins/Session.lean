/-
# Session -- a context that is worked with step by step

A session has a current context.  It begins as the catalog under the bindings of a
given one.  Steps call functions in it, look names up, bind and unbind names of its
own, which a read-only context refuses, and put a child context in front of it or
take it away again.  A call finds
its function in the context first, then in the catalog; a name that is bound to
something that cannot be called shadows the function (`Answer.shadowed`).
-/
import TemplateBuiltins.Catalog
import TemplateBuiltins.Suggestion

set_option autoImplicit false

namespace TemplateBuiltins

namespace Mapping

/-- Changes the bindings of a mapping's own, in a chain those of its innermost; nothing if they are read-only. -/
def mapOwn? (f : Bindings Key Value → Bindings Key Value) : Mapping → Option Mapping
  | .entries .readOnly _ => none
  | .entries form fields => some (.entries form (.ofEntries (f fields.list)))
  | .chain own parents => (own.mapOwn? f).map fun own => .chain own parents

/-- The mapping that a value is; other values count as one without bindings. -/
def ofValue : Value → Mapping
  | .object m => m
  | _ => .entries .plain .empty

/-- The mapping behind a chain's own, or the mapping itself if it is no chain. -/
def enclosing : Mapping → Mapping
  | .chain _ (parent :: _) => parent
  | m => m

end Mapping

structure Session where
  current : Mapping

namespace Session

inductive Step where
  /-- Arguments that could not be evaluated fail a call, but only if there is something to call. -/
  | call (name : String) (args : Except Failure (List Value)) (save : Option String)
  | get (name : String)
  | set (name : String) (v : Value)
  | unset (name : String)
  | child (context : Value)
  | parent
  | rebuild
  | merge (context : Value)

inductive Answer where
  | result (v : Value)
  | failed (f : Failure)
  /-- The name of a call is bound to a value that cannot be called. -/
  | shadowed (v : Value)
  | bound (v : Value)
  | missing (name : String)
  /-- How many own bindings are functions of the catalog, and the names of the others. -/
  | owned (builtins : Nat) (others : List String)

/-- The catalog under the bindings that a context owns, as a mapping. -/
def mergedMapping (context : Value) : Mapping := .entries .plain context.merged

def start (context : Value) : Session := ⟨mergedMapping context⟩

def lookUp (s : Session) (name : String) : Option Value := s.current.get? (.text name)

/-- The value of a variable; one that is not bound fails with its name. -/
def valueOf (s : Session) (name : String) : Except Failure Value :=
  match s.lookUp name with
  | some v => .ok v
  | none => .error (.own "KeyError" (String.ofList (Text.quoted name.toList)))

def bind (s : Session) (name : String) (v : Value) : Except Failure Session :=
  match s.current.mapOwn? fun b => b.set (.text name) v with
  | some m => .ok ⟨m⟩
  | none => .error (.own "TypeError" "'mappingproxy' object does not support item assignment")

def unbind (s : Session) (name : String) : Except Failure Session :=
  match s.current.mapOwn? fun b => b.erase (.text name) with
  | some m => .ok ⟨m⟩
  | none => .error (.own "AttributeError" "'mappingproxy' object has no attribute 'pop'")

/-- What the current context owns. -/
def owned (s : Session) : Answer :=
  let own := s.current.own.list
  let others := own.filter fun e => !e.2.isBuiltin
  .owned (own.length - others.length)
    ((others.map fun e => String.ofList e.1.value.plain).mergeSort fun a b => decide (a ≤ b))

/-- The value that a call finds, or the failure to find one. -/
def callee (s : Session) (name : String) : Except Failure Value :=
  match s.lookUp name with
  | some v => .ok v
  | none => (Builtin.find name).map fun b => .function (.builtin b)

/-- Calls a callable value; a callable object has nothing to say. -/
def apply (clock : Moment) (s : Session) (args : List Value) : Value → Except Failure Value
  | .function f => f.call clock (.object s.current) args
  | _ => .ok .null

def call (clock : Moment) (s : Session) (name : String) (args : Except Failure (List Value))
    (save : Option String) : Answer × Session :=
  match s.callee name with
  | .error f => (.failed f, s)
  | .ok v =>
    if v.isCallable then
      match args.bind fun args => s.apply clock args v, save with
      | .error f, _ => (.failed f, s)
      | .ok r, none => (.result r, s)
      | .ok r, some name =>
        match s.bind name r with
        | .ok s => (.result r, s)
        | .error f => (.failed f, s)
    else (.shadowed v, s)

/-- A session together with the answer about what it owns. -/
def reported (s : Session) : Answer × Session := (s.owned, s)

/-- A changed session with the answer about what it owns, or the failure to change it. -/
def changed (s : Session) : Except Failure Session → Answer × Session
  | .ok s => s.reported
  | .error f => (.failed f, s)

/-- One step, at a clock that shows `clock`. -/
def step (clock : Moment) (s : Session) : Step → Answer × Session
  | .call name args save => s.call clock name args save
  | .get name =>
    (match s.lookUp name with
      | some v => .bound v
      | none => .missing name, s)
  | .set name v => s.changed (s.bind name v)
  | .unset name => s.changed (s.unbind name)
  | .child context => reported ⟨.chain (Mapping.ofValue context) [s.current]⟩
  | .parent => reported ⟨s.current.enclosing⟩
  | .rebuild => (start (.object s.current)).reported
  | .merge context => (start context).reported

/-- The session that several steps leave, each at the same clock. -/
def run (clock : Moment) (s : Session) (steps : List Step) : Session :=
  steps.foldl (fun s st => (s.step clock st).2) s

end Session

end TemplateBuiltins
