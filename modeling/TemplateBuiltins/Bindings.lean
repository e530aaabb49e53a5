/-
# Bindings -- values by name, in order

Bindings keep the order in which their names were bound first.  Binding a name
again replaces its value where it stands, so looking it up after that finds the
value bound last (`get?_set`), and no name comes to occur twice (`nodup_update`).
-/

set_option autoImplicit false

namespace TemplateBuiltins

/-- Values by name, in the order in which the names were bound first. -/
abbrev Bindings (κ α : Type) := List (κ × α)

namespace Bindings

variable {κ α : Type}

def names (b : Bindings κ α) : List κ := b.map (·.1)

theorem names_cons (e : κ × α) (rest : Bindings κ α) : names (e :: rest) = e.1 :: names rest := rfl

variable [DecidableEq κ]

def get? (b : Bindings κ α) (name : κ) : Option α :=
  match b with
  | [] => none
  | (n, v) :: rest => if n = name then some v else get? rest name

def binds (b : Bindings κ α) (name : κ) : Bool := b.names.contains name

/-- Binds a name, in its old place if it was bound before. -/
def set (b : Bindings κ α) (name : κ) (v : α) : Bindings κ α :=
  match b with
  | [] => [(name, v)]
  | (n, w) :: rest => if n = name then (name, v) :: rest else (n, w) :: set rest name v

def erase (b : Bindings κ α) (name : κ) : Bindings κ α := b.filter fun e => e.1 ≠ name

/-- Binds all names of `more`, in order. -/
def update (b more : Bindings κ α) : Bindings κ α := more.foldl (fun b e => b.set e.1 e.2) b

theorem get?_set (b : Bindings κ α) (name key : κ) (v : α) :
    (b.set name v).get? key = if name = key then some v else b.get? key := by
  induction b with
  | nil => rfl
  | cons e rest ih =>
    obtain ⟨n, w⟩ := e
    by_cases h : n = name
    · subst h
      by_cases hk : n = key <;> simp [set, get?, hk]
    · by_cases hk : n = key
      · subst hk
        simp [set, get?, h, Ne.symm h]
      · simp [set, get?, h, hk, ih]

theorem mem_names_set (b : Bindings κ α) (name : κ) (v : α) (key : κ) :
    key ∈ (b.set name v).names ↔ key ∈ b.names ∨ key = name := by
  induction b with
  | nil => simp [set, names]
  | cons e rest ih =>
    rw [set]
    split
    · rename_i same
      subst same
      simp only [names_cons, List.mem_cons]
      exact ⟨.inl, fun | .inl h => h | .inr h => .inl h⟩
    · simp only [names_cons, List.mem_cons, ih, or_assoc]

theorem nodup_set {b : Bindings κ α} (distinct : b.names.Nodup) (name : κ) (v : α) :
    (b.set name v).names.Nodup := by
  induction b with
  | nil => exact List.nodup_cons.2 ⟨List.not_mem_nil, List.nodup_nil⟩
  | cons e rest ih =>
    obtain ⟨fresh, behind⟩ := List.nodup_cons.1 distinct
    rw [set]
    split
    · rename_i same
      exact List.nodup_cons.2 ⟨same ▸ fresh, behind⟩
    · rename_i other
      refine List.nodup_cons.2 ⟨fun inside => ?_, ih behind⟩
      rcases (mem_names_set rest name v _).1 inside with old | same
      · exact fresh old
      · exact other same

theorem nodup_update {b : Bindings κ α} (distinct : b.names.Nodup) (more : Bindings κ α) :
    (b.update more).names.Nodup := by
  induction more generalizing b with
  | nil => exact distinct
  | cons e rest ih => exact ih (nodup_set distinct e.1 e.2)

end Bindings

end TemplateBuiltins
