/-
# Proofs.Signature.Alternatives -- what the text of a signature names

A text names a kind (`Signature.Names`) if one of its parts between the bars is the name
of that kind, but for blanks around it.  A text that denotes a signature names exactly
the alternatives of that signature, and the parts stand in the order of the alternatives
(`map_trim_of_ofText`, `mem_alternatives_iff`).
-/
import TemplateBuiltins.Failure
import TemplateBuiltins.Proofs.Text.Pieces
import TemplateBuiltins.Proofs.Text.Runs

set_option autoImplicit false

namespace TemplateBuiltins

namespace Kind

theorem ofName?_ofList_iff (name : List Char) (k : Kind) :
    ofName? (String.ofList name) = some k ↔ name = k.name.toList := by
  constructor
  · intro found
    unfold ofName? at found
    have same := List.find?_some found
    rw [beq_iff_eq.1 same, String.toList_ofList]
  · rintro rfl
    rw [String.ofList_toList]
    exact ofName?_name k

theorem name_ne_nil (k : Kind) : k.name.toList ≠ [] := by cases k <;> simp [name]

theorem not_blank_of_mem_name (k : Kind) : ∀ c ∈ k.name.toList, Text.isBlank c = false := by
  have solid : k.name.toList.all (!Text.isBlank ·) = true := by cases k <;> rfl
  simpa using List.all_eq_true.1 solid

theorem name_toList_injective {j k : Kind} (same : j.name.toList = k.name.toList) : j = k := by
  have first := (ofName?_ofList_iff _ j).2 rfl
  rw [same, (ofName?_ofList_iff _ k).2 rfl] at first
  exact (Option.some.inj first).symm

end Kind

namespace Signature

/-- One of the parts between the bars is the name of the kind with nothing but blanks around it. -/
def Names (text : List Char) (k : Kind) : Prop :=
  ∃ left right, left ++ k.name.toList ++ right ∈ text.splitOn '|' ∧
    ∀ c ∈ left ++ right, Text.isBlank c = true

theorem trim_eq_name_iff (part : List Char) (k : Kind) :
    Text.trim part = k.name.toList ↔
      ∃ left right, part = left ++ k.name.toList ++ right ∧
        ∀ c ∈ left ++ right, Text.isBlank c = true := by
  constructor
  · intro trimmed
    obtain ⟨left, right, around, whole⟩ := Text.exists_trim part
    rw [trimmed] at whole
    exact ⟨left, right, whole, around⟩
  · rintro ⟨left, right, rfl, around⟩
    exact Text.trim_append around k.not_blank_of_mem_name

theorem names_iff (text : List Char) (k : Kind) :
    Names text k ↔ ∃ part ∈ parts text, Text.trim part = k.name.toList := by
  simp only [parts, Text.pieces_singleton, trim_eq_name_iff]
  constructor
  · rintro ⟨left, right, inside, around⟩
    exact ⟨_, inside, left, right, rfl, around⟩
  · rintro ⟨part, inside, left, right, rfl, around⟩
    exact ⟨left, right, inside, around⟩

/-- Parts name some kinds exactly if they trim to the names of these, one for one. -/
theorem kinds_eq_ok_iff (parts : List (List Char)) (ks : List Kind) :
    kinds parts = .ok ks ↔ parts.map Text.trim = ks.map (·.name.toList) := by
  induction parts generalizing ks with
  | nil => cases ks <;> simp [kinds]
  | cons part parts ih =>
      cases ks with
      | nil =>
          simp only [List.map_cons, List.map_nil, reduceCtorEq, iff_false]
          intro read
          simpa using length_kinds read
      | cons k ks =>
          rw [List.map_cons, List.map_cons, List.cons.injEq, ← Kind.ofName?_ofList_iff, ← ih, kinds]
          cases Kind.ofName? (String.ofList (Text.trim part)) with
          | none => simp
          | some j => cases kinds parts <;> simp [Except.map]

/-- A text whose parts name the alternatives of a signature denotes that signature. -/
theorem ofText_eq_ok {text : List Char} {s : Signature}
    (given : Text.isAllBlank text = false) (read : kinds (parts text) = .ok s.alternatives) :
    ofText text = .ok s := by
  unfold ofText
  rw [given]
  simp only [Bool.false_eq_true, ↓reduceIte]
  split
  · rename_i ks h
    rw [read] at h
    cases h
    rfl
  · rename_i e h
    rw [read] at h
    cases h

/-- The parts of a text that denotes a signature trim to the names of its alternatives. -/
theorem map_trim_of_ofText {text : List Char} {s : Signature} (denotes : ofText text = .ok s) :
    (parts text).map Text.trim = s.alternatives.map (·.name.toList) := by
  rw [← kinds_eq_ok_iff]
  unfold ofText at denotes
  split at denotes
  · cases denotes
  · split at denotes
    · cases denotes
      assumption
    · cases denotes

/-- **A text that denotes a signature names exactly the alternatives of the signature.** -/
theorem mem_alternatives_iff {text : List Char} {s : Signature} (denotes : ofText text = .ok s) (k : Kind) :
    k ∈ s.alternatives ↔ Names text k := by
  have trimmed : k.name.toList ∈ (parts text).map Text.trim ↔
      k.name.toList ∈ s.alternatives.map (·.name.toList) := by
    rw [map_trim_of_ofText denotes]
  rw [List.mem_map, List.mem_map] at trimmed
  rw [names_iff, trimmed]
  constructor
  · intro inside
    exact ⟨k, inside, rfl⟩
  · rintro ⟨j, inside, same⟩
    exact Kind.name_toList_injective same ▸ inside

end Signature

theorem Value.signature?_string {text : String} {s : Signature}
    (given : Text.isAllBlank text.toList = false)
    (read : Signature.kinds (Signature.parts text.toList) = .ok s.alternatives) :
    (Value.string text).signature? = .ok s := by
  rw [signature?, Signature.ofText_eq_ok given read]

theorem Value.ofText_of_signature? {text : String} {s : Signature}
    (denotes : (Value.string text).signature? = .ok s) : Signature.ofText text.toList = .ok s := by
  rw [signature?] at denotes
  split at denotes
  · rename_i read
    cases denotes
    exact read
  · cases denotes

end TemplateBuiltins
