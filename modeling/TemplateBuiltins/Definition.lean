/-
# Definition -- functions that check their arguments

A definition gives a function a name, a signature for each of its positions or one
for all arguments, a least number of arguments, and a body.  A call shows all its
arguments in the log first, and fails if one of them cannot be shown, whatever the level
of the log.  Then it is checked before the body runs, in this order:

* a function with fixed positions needs an argument for each (`Failure.tooFew`);
* there must be the least number of arguments, if one is set and is not zero
  (`Failure.belowMinimum`, unless that number is too long for the message);
* each argument with a signature must have one of its kinds; the first that has
  not is reported (`Failure.wrongKind`).

Arguments beyond the fixed positions are neither checked nor passed on.  The body
takes the context or does not; that is settled by the definition, not by the call.
A declaration becomes a definition when all its signatures are read, the fixed ones
first, also where the signature for all arguments makes them idle.
-/
import TemplateBuiltins.Failure
import TemplateBuiltins.Parameters
import TemplateBuiltins.Value.Kinds

set_option autoImplicit false

namespace TemplateBuiltins

/-- What a function does with its arguments, apart from its context or with it. -/
inductive Body where
  | pure (run : List Value → Except Failure Value)
  | contextual (run : Value → List Value → Except Failure Value)

namespace Body

def needsContext : Body → Bool
  | .pure _ => false
  | .contextual _ => true

def run : Body → Value → List Value → Except Failure Value
  | .pure f, _, args => f args
  | .contextual f, context, args => f context args

/-- A body that takes whatever it is given as one list, the context first if it needs it. -/
def received (needsContext : Bool) (f : List Value → Except Failure Value) : Body :=
  if needsContext then .contextual fun context args => f (context :: args) else .pure f

end Body

structure Definition extends Parameters where
  name : String
  body : Body

namespace Definition

/-- What calls of the function look like. -/
def describe (d : Definition) : List Char :=
  let parameters := match d.variadic with
    | some s =>
      "...".toList ++ s.text ++
        (match d.floor? with
          | some n => " (at least ".toList ++ Text.signedDigits n ++ [')']
          | none => [])
    | none => Text.glue [',', ' '] (d.positions.map (·.text))
  d.name.toList ++ '(' :: parameters ++ [')']

/-- The first argument that its signature does not admit, with its index, from `index` on. -/
def mismatch? (d : Definition) (index : Nat) : List Value → Option (Nat × Signature × Value)
  | [] => none
  | v :: rest =>
    match d.signatureAt? index with
    | none => none
    | some s => if s.matchesValue v then mismatch? d (index + 1) rest else some (index, s, v)

def checkPositions (d : Definition) (found : Nat) : Except Failure Unit :=
  if d.variadic.isNone ∧ found < d.positions.length then
    .error (.tooFew d.name d.positions.length found)
  else .ok ()

/-- What a call with too few arguments fails with: the message tells how many there must be. -/
def refusalBelow (d : Definition) (least : Int) (found : Nat) : Failure :=
  if Text.isWritable least then .belowMinimum d.name least found else .tooLong none

def checkMinimum (d : Definition) (found : Nat) : Except Failure Unit :=
  match d.floor? with
  | some least => if (found : Int) < least then .error (d.refusalBelow least found) else .ok ()
  | none => .ok ()

def checkKinds (d : Definition) (args : List Value) : Except Failure Unit :=
  match d.mismatch? 0 args with
  | some (index, s, v) => .error (.wrongKind d.name (index + 1) s v.kindName)
  | none => .ok ()

def check (d : Definition) (args : List Value) : Except Failure Unit := do
  d.checkPositions args.length
  d.checkMinimum args.length
  d.checkKinds args

/-- Shows the arguments in the log. -/
def checkShown (args : List Value) : Except Failure Unit :=
  if allShowable args then .ok () else .error (.tooLong none)

/-- The arguments that the body is given. -/
def forwarded (d : Definition) (args : List Value) : List Value :=
  match d.limit? with
  | some n => args.take n
  | none => args

def call (d : Definition) (context : Value) (args : List Value) : Except Failure Value := do
  checkShown args
  d.check args
  d.body.run context (d.forwarded args)

end Definition

/-- A definition whose signatures are still to be read. -/
structure Declaration where
  name : String
  positions : List Value
  variadic : Option Value
  minimum : Option Int
  body : Body

namespace Declaration

/-- The signatures of a list of values; the first fault is reported. -/
def signatures : List Value → Except SignatureFault (List Signature)
  | [] => .ok []
  | v :: rest => do
    let s ← v.signature?
    let more ← signatures rest
    .ok (s :: more)

/-- The signature for all arguments, if one is given. -/
def variadicSignature : Option Value → Except SignatureFault (Option Signature)
  | none => .ok none
  | some v => v.signature?.map some

/-- The definition that a declaration comes to.  Installing it also writes its description
(`Definition.describe`), for which a least number of arguments of more than `Text.digitLimit` digits is
too long where one signature is given for all arguments; such declarations are not considered here. -/
def define (d : Declaration) : Except SignatureFault Definition := do
  let positions ← signatures d.positions
  let variadic ← variadicSignature d.variadic
  .ok ⟨⟨positions, variadic, d.minimum⟩, d.name, d.body⟩

end Declaration

/-- Defined functions by name. -/
abbrev Target := Bindings String Definition

namespace Target

/-- Installs a declaration under its name; a faulty declaration leaves everything as it was. -/
def install (t : Target) (d : Declaration) : Except SignatureFault Definition × Target :=
  match d.define with
  | .ok definition => (.ok definition, t.set d.name definition)
  | .error fault => (.error fault, t)

end Target

end TemplateBuiltins
