/-
# Signature -- which kinds an argument may have

A signature lists at least one kind, its alternatives.  It is written as their
names between bars, and read with blanks allowed around every name.  Reading a
written signature gives it back, and a text is a signature exactly if each of its
parts between the bars is the name of a kind.
-/
import TemplateBuiltins.Kind
import TemplateBuiltins.Text.Blank
import TemplateBuiltins.Text.Pieces

set_option autoImplicit false

namespace TemplateBuiltins

structure Signature where
  alternatives : List Kind
  inhabited : alternatives ≠ []
  deriving DecidableEq

namespace Signature

/-- The signature of one kind. -/
def only (k : Kind) : Signature := ⟨[k], by simp⟩

/-- The signature of a kind or any of some others. -/
def anyOf (k : Kind) (others : List Kind) : Signature := ⟨k :: others, by simp⟩

def text (s : Signature) : List Char := Text.glue ['|'] (s.alternatives.map (·.name.toList))

def admits (s : Signature) (k : Kind) : Bool := s.alternatives.contains k

/-- Why a text is no signature. -/
inductive TextFault where
  /-- There is nothing in it. -/
  | blank
  /-- The first part that is not the name of a kind. -/
  | unknownKind (name : List Char)
  deriving DecidableEq

/-- The kinds that some parts name. -/
def kinds : List (List Char) → Except TextFault (List Kind)
  | [] => .ok []
  | part :: parts =>
    let name := Text.trim part
    match Kind.ofName? (String.ofList name) with
    | some k => (kinds parts).map (k :: ·)
    | none => .error (.unknownKind name)

theorem length_kinds {parts : List (List Char)} {ks : List Kind} (h : kinds parts = .ok ks) :
    ks.length = parts.length := by
  induction parts generalizing ks with
  | nil => simp [kinds] at h; simp [← h]
  | cons part parts ih =>
    unfold kinds at h
    simp only at h
    split at h
    · cases hk : kinds parts with
      | error e => simp [hk, Except.map] at h
      | ok ks' =>
        simp only [hk, Except.map, Except.ok.injEq] at h
        simp [← h, ih hk]
    · cases h

/-- The parts of a text between its bars. -/
def parts (s : List Char) : List (List Char) := Text.pieces ['|'] s

/-- The signature that a text denotes. -/
def ofText (s : List Char) : Except TextFault Signature :=
  if Text.isAllBlank s then .error .blank
  else
    match h : kinds (parts s) with
    | .ok ks => .ok ⟨ks, by
        rintro rfl
        have := length_kinds h
        exact Text.pieces_ne_nil ['|'] s (List.eq_nil_of_length_eq_zero this.symm)⟩
    | .error e => .error e

end Signature

end TemplateBuiltins
