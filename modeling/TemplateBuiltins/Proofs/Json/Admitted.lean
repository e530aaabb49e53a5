/-
# Proofs.Json.Admitted -- the JSON values that are read

An integer with too many digits is refused by the reader, wherever it stands in a text, so
all integers in a value that is read are short enough (`Json.Admitted`, `admitted_of_read`).
The reader recurs on its steps through values, items and members, and one induction on the
steps tells this of all three (`ReadsAdmitted`).
-/
import TemplateBuiltins.Proofs.Json.Numbers

set_option autoImplicit false

namespace TemplateBuiltins

/-! ## Results in two steps -/

section Steps

variable {α β ε : Type} {x : Except ε α}

theorem exists_of_map_ok {f : α → β} {b : β} (done : x.map f = .ok b) : ∃ a, x = .ok a ∧ f a = b := by
  cases x with
  | error e => cases done
  | ok a => exact ⟨a, rfl, Except.ok.inj done⟩

theorem exists_of_bind_ok {f : α → Except ε β} {b : β} (done : x >>= f = .ok b) :
    ∃ a, x = .ok a ∧ f a = .ok b := by
  cases x with
  | error e => cases done
  | ok a => exact ⟨a, rfl, done⟩

end Steps

namespace Json

/-- All integers in the value have few enough digits to be read. -/
inductive Admitted : Json → Prop
  | null : Admitted .null
  | boolean (b : Bool) : Admitted (.boolean b)
  | number {n : Number} (showable : n.isShowable = true) : Admitted (.number n)
  | string (s : String) : Admitted (.string s)
  | array {items : List Json} (all : ∀ v ∈ items, v.Admitted) : Admitted (.array items)
  | object {members : List (String × Json)} (all : ∀ m ∈ members, m.2.Admitted) : Admitted (.object members)

/-! ## Atoms -/

theorem admitted_of_admitted {n : Number} {j : Json} (passed : admitted n = .ok j) : j.Admitted := by
  cases n with
  | int n =>
      rw [admitted] at passed
      split at passed
      · rename_i short
        cases passed
        exact .number short
      · cases passed
  | double x =>
      cases passed
      exact .number rfl

theorem admitted_of_mem_words : ∀ w ∈ words, w.2.Admitted := by
  simp only [words, List.forall_mem_cons, List.not_mem_nil, false_imp_iff, implies_true, and_true]
  exact ⟨.null, .boolean true, .boolean false, .number rfl, .number rfl, .number rfl⟩

theorem admitted_of_readAtom {s rest : List Char} {j : Json} (read : readAtom s = .ok (j, rest)) :
    j.Admitted := by
  simp only [readAtom] at read
  split at read
  · rename_i found
    obtain ⟨w, inside, cut⟩ := List.exists_of_findSome?_eq_some found
    obtain ⟨behind, -, same⟩ := Option.map_eq_some_iff.1 cut
    cases read
    cases same
    exact admitted_of_mem_words w inside
  · split at read
    · obtain ⟨k, passed, same⟩ := exists_of_map_ok read
      cases same
      exact admitted_of_admitted passed
    · cases read

/-! ## Whole values -/

/-- Whatever is read with so many steps is admitted. -/
structure ReadsAdmitted (steps : Nat) : Prop where
  value : ∀ {s rest : List Char} {j : Json}, readValue steps s = .ok (j, rest) → j.Admitted
  items : ∀ {s rest : List Char} {items : List Json}, readItems steps s = .ok (items, rest) →
    ∀ j ∈ items, j.Admitted
  members : ∀ {s rest : List Char} {members : List (String × Json)},
    readMembers steps s = .ok (members, rest) → ∀ m ∈ members, m.2.Admitted

namespace ReadsAdmitted

variable {steps : Nat} {s rest : List Char} (reads : ReadsAdmitted steps)

include reads

theorem value_succ {j : Json} (read : readValue (steps + 1) s = .ok (j, rest)) : j.Admitted := by
  cases s with
  | nil => cases read
  | cons c behind =>
      rw [readValue] at read
      split at read
      · obtain ⟨r, -, same⟩ := exists_of_map_ok read
        cases same
        exact .string r.1
      split at read
      · split at read
        · cases read
          exact .array (List.forall_mem_nil _)
        · obtain ⟨r, items, same⟩ := exists_of_map_ok read
          cases same
          exact .array (reads.items items)
      split at read
      · split at read
        · cases read
          exact .object (List.forall_mem_nil _)
        · obtain ⟨r, members, same⟩ := exists_of_map_ok read
          cases same
          exact .object (reads.members members)
      · exact admitted_of_readAtom read

theorem items_succ {items : List Json} (read : readItems (steps + 1) s = .ok (items, rest)) :
    ∀ j ∈ items, j.Admitted := by
  rw [readItems] at read
  obtain ⟨⟨v, behind⟩, first, next⟩ := exists_of_bind_ok read
  have admitted := reads.value first
  simp only at next
  split at next
  · cases next
    exact List.forall_mem_singleton.2 admitted
  · obtain ⟨r, others, same⟩ := exists_of_map_ok next
    cases same
    exact List.forall_mem_cons.2 ⟨admitted, reads.items others⟩
  · cases next

theorem members_succ {members : List (String × Json)}
    (read : readMembers (steps + 1) s = .ok (members, rest)) : ∀ m ∈ members, m.2.Admitted := by
  cases s with
  | nil => cases read
  | cons c behind =>
      rw [readMembers] at read
      split at read
      · obtain ⟨⟨name, afterName⟩, -, colon⟩ := exists_of_bind_ok read
        simp only at colon
        split at colon
        · obtain ⟨⟨v, afterValue⟩, first, next⟩ := exists_of_bind_ok colon
          have admitted := reads.value first
          simp only at next
          split at next
          · cases next
            exact List.forall_mem_singleton.2 admitted
          · obtain ⟨r, others, same⟩ := exists_of_map_ok next
            cases same
            exact List.forall_mem_cons.2 ⟨admitted, reads.members others⟩
          · cases next
        · cases colon
      · cases read

end ReadsAdmitted

theorem readsAdmitted (steps : Nat) : ReadsAdmitted steps := by
  induction steps with
  | zero => exact ⟨nofun, nofun, nofun⟩
  | succ steps ih => exact ⟨ih.value_succ, ih.items_succ, ih.members_succ⟩

/-- **A value that is read has no integer of too many digits.** -/
theorem admitted_of_read {s : List Char} {j : Json} (done : read s = .ok j) : j.Admitted := by
  rw [read] at done
  split at done
  · cases done
  · obtain ⟨⟨v, rest⟩, value, ends⟩ := exists_of_bind_ok done
    simp only at ends
    split at ends
    · cases ends
      exact (readsAdmitted _).value value
    · cases ends

end Json

end TemplateBuiltins
