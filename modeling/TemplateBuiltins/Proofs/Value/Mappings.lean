/-
# Proofs.Value.Mappings -- look-ups in a mapping and its bindings

A mapping is asked for a key, or all its bindings are laid out in order.  Both tell the
same: the bindings of a chain hold under a key what the first of its mappings that has the
key holds (`Mapping.get?_bindings`).  So the keys that are bound are those that the mapping
answers (`Mapping.mem_names_bindings`), and a mapping that counts as empty binds none
(`Mapping.bindings_of_isEmpty`).
-/
import TemplateBuiltins.Proofs.Bindings.Update
import TemplateBuiltins.Value.Mapping
import TemplateBuiltins.Value.Truth

set_option autoImplicit false

namespace TemplateBuiltins

/-! ## Values -/

mutual

/-- **The bindings of a mapping hold what the mapping answers.** -/
theorem Mapping.get?_bindings (m : Mapping) (key : Key) : m.bindings.get? key = m.get? key := by
  cases m with
  | entries form fields => rw [Mapping.bindings, Mapping.get?]
  | chain own parents =>
      rw [Mapping.bindings, Table.get?_update, own.get?_bindings, get?_allBindings parents, Mapping.get?]
      cases own.get? key <;> rfl

theorem get?_allBindings (ms : List Mapping) (key : Key) : (allBindings ms).get? key = getAny? key ms := by
  cases ms with
  | nil => rw [allBindings, getAny?, Table.get?_empty]
  | cons m rest =>
      rw [allBindings, Table.get?_update, m.get?_bindings, get?_allBindings rest, getAny?]
      cases m.get? key <;> rfl

end

theorem Mapping.mem_names_bindings (m : Mapping) (key : Key) :
    key ∈ m.bindings.list.names ↔ ∃ v, m.get? key = some v := by
  rw [← m.get?_bindings, Table.mem_names_iff]

/-! ## Empty mappings -/

mutual

theorem Mapping.bindings_of_isEmpty (m : Mapping) (empty : m.isEmpty = true) : m.bindings = .empty := by
  cases m with
  | entries form fields =>
      rw [Mapping.bindings]
      exact Table.ext (List.isEmpty_iff.1 empty)
  | chain own parents =>
      obtain ⟨first, others⟩ := Bool.and_eq_true_iff.1 empty
      rw [Mapping.bindings, own.bindings_of_isEmpty first, allBindings_of_allEmpty parents others,
        Table.update_empty]

theorem allBindings_of_allEmpty (ms : List Mapping) (empty : allEmpty ms = true) : allBindings ms = .empty := by
  cases ms with
  | nil => rfl
  | cons m rest =>
      obtain ⟨first, others⟩ := Bool.and_eq_true_iff.1 empty
      rw [allBindings, m.bindings_of_isEmpty first, allBindings_of_allEmpty rest others, Table.update_empty]

end

end TemplateBuiltins
