/-
# Proofs.Bindings.Update -- bindings laid over others

Laying bindings over others keeps the old names in their places, with new values where
the new bindings have the names, and puts the other new names behind them.  So a look-up
asks the new bindings first (`get?_update`), a name is bound if either side binds it
(`mem_names_update`), and no entry comes in that neither side has (`forall_update`).
Bindings that were laid over some are not changed when they are laid over the same again
(`update_update`).  Tables, in which no name stands twice by their type, have the same
laws without a condition on their names.
-/
import Mathlib.Data.List.Nodup
import TemplateBuiltins.Table

set_option autoImplicit false

namespace TemplateBuiltins

namespace Bindings

variable {κ α : Type} [DecidableEq κ] {P : κ × α → Prop} {b more : Bindings κ α}

/-! ## Looking up -/

/-- What is bound to the keys of some items is found by searching the items for the key. -/
theorem get?_map {β : Type} (items : List β) (key : β → κ) (f : β → α) (name : κ) :
    get? (items.map fun i => (key i, f i)) name = (items.find? fun i => key i == name).map f := by
  induction items with
  | nil => rfl
  | cons i rest ih =>
      by_cases same : key i = name
      · simp [get?, same]
      · simp [get?, same, ih]

theorem get?_eq_none_iff (b : Bindings κ α) (name : κ) : b.get? name = none ↔ name ∉ b.names := by
  induction b with
  | nil => simp [get?, names]
  | cons e rest ih =>
      obtain ⟨n, v⟩ := e
      by_cases same : n = name
      · simp [get?, names, same]
      · have other : name ≠ n := Ne.symm same
        simpa [get?, names, same, other] using ih

theorem mem_of_get? {name : κ} {v : α} (found : b.get? name = some v) : (name, v) ∈ b := by
  induction b with
  | nil => cases found
  | cons e rest ih =>
      obtain ⟨n, w⟩ := e
      rw [get?] at found
      split at found
      · rename_i same
        cases found
        exact same ▸ List.mem_cons_self
      · exact List.mem_cons_of_mem _ (ih found)

/-! ## One binding -/

theorem set_of_notMem {name : κ} (fresh : name ∉ b.names) (v : α) :
    b.set name v = b ++ [(name, v)] := by
  induction b with
  | nil => rfl
  | cons e rest ih =>
      obtain ⟨n, w⟩ := e
      obtain ⟨other, behind⟩ := not_or.1 (mt List.mem_cons.2 fresh)
      rw [set, if_neg (Ne.symm other), ih behind]
      rfl

/-- A bound name gets its value where it stands. -/
theorem set_append_cons {name : κ} (fresh : name ∉ b.names) (w v : α) (rest : Bindings κ α) :
    (b ++ (name, w) :: rest).set name v = b ++ (name, v) :: rest := by
  induction b with
  | nil => simp [set]
  | cons e before ih =>
      obtain ⟨n, u⟩ := e
      obtain ⟨other, behind⟩ := not_or.1 (mt List.mem_cons.2 fresh)
      rw [List.cons_append, set, if_neg (Ne.symm other), ih behind]
      rfl

theorem names_set_of_mem {name : κ} (bound : name ∈ b.names) (v : α) :
    (b.set name v).names = b.names := by
  induction b with
  | nil => cases bound
  | cons e rest ih =>
      obtain ⟨n, w⟩ := e
      by_cases same : n = name
      · simp [set, names, same]
      · have behind : name ∈ names rest := (List.mem_cons.1 bound).resolve_left (Ne.symm same)
        rw [set, if_neg same]
        exact congrArg (n :: ·) (ih behind)

theorem names_set_of_notMem {name : κ} (fresh : name ∉ b.names) (v : α) :
    (b.set name v).names = b.names ++ [name] := by
  rw [set_of_notMem fresh, names, List.map_append]
  rfl

theorem forall_set (all : ∀ e ∈ b, P e) {name : κ} {v : α} (here : P (name, v)) :
    ∀ e ∈ b.set name v, P e := by
  induction b with
  | nil => simpa [set] using here
  | cons e rest ih =>
      obtain ⟨n, w⟩ := e
      rw [List.forall_mem_cons] at all
      rw [set]
      split
      · exact List.forall_mem_cons.2 ⟨here, all.2⟩
      · exact List.forall_mem_cons.2 ⟨all.1, ih all.2⟩

theorem nodup_erase (distinct : b.names.Nodup) (name : κ) : (b.erase name).names.Nodup :=
  distinct.sublist (List.filter_sublist.map _)

/-- Under other names bindings hold what they held. -/
theorem get?_erase (b : Bindings κ α) {name key : κ} (other : key ≠ name) : (b.erase name).get? key = b.get? key := by
  induction b with
  | nil => rfl
  | cons e rest ih =>
      obtain ⟨n, v⟩ := e
      by_cases same : n = name
      · subst same
        rw [erase, List.filter_cons_of_neg (by simp), get?, if_neg (Ne.symm other)]
        exact ih
      · rw [erase, List.filter_cons_of_pos (by simpa using same), get?, get?]
        exact congrArg (ite (n = key) (some v)) ih

/-! ## Several bindings -/

theorem update_cons (b : Bindings κ α) (e : κ × α) (rest : Bindings κ α) :
    b.update (e :: rest) = (b.set e.1 e.2).update rest := rfl

theorem update_append (b first second : Bindings κ α) :
    b.update (first ++ second) = (b.update first).update second := List.foldl_append

theorem forall_update (all : ∀ e ∈ b, P e) (others : ∀ e ∈ more, P e) : ∀ e ∈ b.update more, P e := by
  induction more generalizing b with
  | nil => exact all
  | cons e rest ih =>
      rw [List.forall_mem_cons] at others
      exact ih (forall_set all others.1) others.2

theorem update_of_nodup (distinct : (b ++ more).names.Nodup) : b.update more = b ++ more := by
  induction more generalizing b with
  | nil => exact (List.append_nil b).symm
  | cons e rest ih =>
      have fresh : e.1 ∉ b.names := by
        rw [names, List.map_append, List.nodup_append] at distinct
        exact fun inside => distinct.2.2 _ inside _ List.mem_cons_self rfl
      rw [List.append_cons] at distinct ⊢
      rw [← ih distinct, update_cons, set_of_notMem fresh]

/-- The old names stay in front. -/
theorem exists_names_update (b more : Bindings κ α) : ∃ added, (b.update more).names = b.names ++ added := by
  induction more generalizing b with
  | nil => exact ⟨[], (List.append_nil _).symm⟩
  | cons e rest ih =>
      obtain ⟨added, same⟩ := ih (b.set e.1 e.2)
      rw [update_cons, same]
      by_cases bound : e.1 ∈ b.names
      · exact ⟨added, by rw [names_set_of_mem bound]⟩
      · exact ⟨[e.1] ++ added, by rw [names_set_of_notMem bound, List.append_assoc]⟩

theorem mem_names_update (b more : Bindings κ α) (name : κ) :
    name ∈ (b.update more).names ↔ name ∈ b.names ∨ name ∈ more.names := by
  induction more generalizing b with
  | nil => simp [update, names]
  | cons e rest ih =>
      rw [update_cons, ih, mem_names_set, or_assoc]
      simp [names]

/-- **The new bindings are asked first.** -/
theorem get?_update (b : Bindings κ α) (distinct : more.names.Nodup) (name : κ) :
    (b.update more).get? name = (more.get? name).or (b.get? name) := by
  induction more generalizing b with
  | nil => rfl
  | cons e rest ih =>
      obtain ⟨n, v⟩ := e
      obtain ⟨fresh, behind⟩ := List.nodup_cons.1 distinct
      rw [update_cons, ih _ behind, get?_set, get?]
      by_cases same : n = name
      · subst same
        simp [(get?_eq_none_iff rest n).2 fresh]
      · simp [same]

/-- Bindings under the same names in the same order take the place of the old ones. -/
theorem update_of_names_eq (front : Bindings κ α) (same : b.names = more.names)
    (distinct : (front ++ more).names.Nodup) : (front ++ b).update more = front ++ more := by
  induction more generalizing front b with
  | nil =>
      have : b = [] := List.map_eq_nil_iff.1 same
      rw [this]
      rfl
  | cons e rest ih =>
      cases b with
      | nil => cases same
      | cons d before =>
          obtain ⟨n, v⟩ := e
          obtain ⟨m, w⟩ := d
          obtain ⟨rfl, others⟩ := List.cons.inj same
          have fresh : m ∉ front.names := by
            rw [names, List.map_append, List.nodup_append] at distinct
            exact fun inside => distinct.2.2 _ inside _ List.mem_cons_self rfl
          rw [update_cons, set_append_cons fresh, List.append_cons front]
          rw [List.append_cons] at distinct
          rw [ih _ others distinct, ← List.append_cons]

/-- **Bindings that were laid over others stay as they are when they are laid over them again.** -/
theorem update_update (distinct : b.names.Nodup) (more : Bindings κ α) :
    b.update (b.update more) = b.update more := by
  obtain ⟨added, order⟩ := exists_names_update b more
  obtain ⟨old, new, whole, olds, -⟩ := List.map_eq_append_iff.1 order
  have first : (names old).Nodup := by
    rw [names, olds]
    exact distinct
  have replaced : b.update old = old := update_of_names_eq [] olds.symm first
  have once := nodup_update distinct more
  rw [whole] at once ⊢
  rw [update_append, replaced, update_of_nodup once]

end Bindings

/-! ## Tables -/

namespace Table

variable {κ α : Type} [DecidableEq κ]

theorem mem_of_get? {t : Table κ α} {name : κ} {v : α} (found : t.get? name = some v) : (name, v) ∈ t.list :=
  Bindings.mem_of_get? found

theorem get?_empty (name : κ) : (empty : Table κ α).get? name = none := rfl

theorem mem_names_iff (t : Table κ α) (name : κ) : name ∈ t.list.names ↔ ∃ v, t.get? name = some v := by
  rw [← Option.ne_none_iff_exists', get?, ne_eq, Bindings.get?_eq_none_iff, not_not]

theorem list_ofEntries {b : Bindings κ α} (distinct : b.names.Nodup) : (ofEntries b).list = b := by
  rw [ofEntries, list_extend]
  exact Bindings.update_of_nodup (b := []) distinct

/-- A table is what laying down its entries leaves. -/
theorem ofEntries_list (t : Table κ α) : ofEntries t.list = t := ext (list_ofEntries t.nodup_list)

theorem forall_ofEntries {P : κ × α → Prop} {b : Bindings κ α} (all : ∀ e ∈ b, P e) :
    ∀ e ∈ (ofEntries b).list, P e := by
  rw [ofEntries, list_extend]
  exact Bindings.forall_update (List.forall_mem_nil _) all

theorem list_set (t : Table κ α) (name : κ) (v : α) : (t.set name v).list = t.list.set name v :=
  list_extend t [(name, v)]

/-- **The table above is asked first.** -/
theorem get?_update (t more : Table κ α) (name : κ) :
    (t.update more).get? name = (more.get? name).or (t.get? name) := by
  rw [get?, update, list_extend, Bindings.get?_update _ more.nodup_list]
  rfl

theorem mem_names_update (t more : Table κ α) (name : κ) :
    name ∈ (t.update more).list.names ↔ name ∈ t.list.names ∨ name ∈ more.list.names := by
  rw [update, list_extend, Bindings.mem_names_update]

theorem update_empty (t : Table κ α) : t.update empty = t := ext (list_extend t [])

theorem update_update (t more : Table κ α) : t.update (t.update more) = t.update more := by
  apply ext
  rw [update, list_extend, update, list_extend, Bindings.update_update t.nodup_list]

end Table

end TemplateBuiltins
