/-
# Value.Mapping -- what mappings bind

A chain is asked for a key from its own mapping to the last of its parents
(`Mapping.get?`).  All its bindings together (`Mapping.bindings`) come in the order
in which its mappings are laid over each other, the last parent at the bottom.
-/
import TemplateBuiltins.Value.Basic

set_option autoImplicit false

namespace TemplateBuiltins

mutual

/-- What a mapping holds under a key, its parents asked in order. -/
def Mapping.get? (key : Key) : Mapping → Option Value
  | .entries _ fields => fields.get? key
  | .chain own parents =>
    match own.get? key with
    | some v => some v
    | none => getAny? key parents

/-- What the first of some mappings that has a key holds under it. -/
def getAny? (key : Key) : List Mapping → Option Value
  | [] => none
  | m :: rest =>
    match m.get? key with
    | some v => some v
    | none => getAny? key rest

end

mutual

/-- All bindings of a mapping, inherited ones included; those of the last parent stand first. -/
def Mapping.bindings : Mapping → Table Key Value
  | .entries _ fields => fields
  | .chain own parents => (allBindings parents).update own.bindings

/-- The bindings of some mappings, each over those behind it. -/
def allBindings : List Mapping → Table Key Value
  | [] => .empty
  | m :: rest => (allBindings rest).update m.bindings

end

/-- The bindings that belong to a mapping itself. -/
def Mapping.own : Mapping → Table Key Value
  | .chain own _ => own.bindings
  | m => m.bindings

end TemplateBuiltins
