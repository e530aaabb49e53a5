/-
# Table -- values for names that are all different

A table holds entries in order, each with a name that none of those behind it has: the
entries are indexed by their names, so that a table in which a name stands twice cannot
be built.  All that is told of a table is told of the list of its entries
(`Table.list`), which determines it (`Table.ext`).  Laying entries over a table binds
their names one after the other, as `Bindings.update` does.
-/
import TemplateBuiltins.Bindings

set_option autoImplicit false

namespace TemplateBuiltins

/-- Entries with names that are all different, by the list of their names. -/
inductive Entries (κ α : Type) : List κ → Type where
  | nil : Entries κ α []
  | cons {names : List κ} (name : κ) (fresh : name ∉ names) (v : α) (rest : Entries κ α names) :
      Entries κ α (name :: names)

namespace Entries

variable {κ α : Type}

def list {names : List κ} : Entries κ α names → Bindings κ α
  | .nil => []
  | .cons name _ v rest => (name, v) :: rest.list

theorem names_list {names : List κ} (entries : Entries κ α names) : entries.list.names = names := by
  induction entries with
  | nil => rfl
  | cons name fresh v rest ih => rw [list, Bindings.names_cons, ih]

def ofList : (b : Bindings κ α) → b.names.Nodup → Entries κ α b.names
  | [], _ => .nil
  | (name, v) :: rest, distinct =>
    .cons name (List.nodup_cons.1 distinct).1 v (ofList rest (List.nodup_cons.1 distinct).2)

theorem list_ofList (b : Bindings κ α) (distinct : b.names.Nodup) : (ofList b distinct).list = b := by
  induction b with
  | nil => rfl
  | cons e rest ih => exact congrArg (e :: ·) (ih (List.nodup_cons.1 distinct).2)

end Entries

structure Table (κ α : Type) where
  {names : List κ}
  entries : Entries κ α names

namespace Table

variable {κ α : Type}

/-- The entries of a table, in order. -/
def list (t : Table κ α) : Bindings κ α := t.entries.list

theorem nodup_list (t : Table κ α) : t.list.names.Nodup := by
  obtain ⟨entries⟩ := t
  induction entries with
  | nil => exact List.nodup_nil
  | cons name fresh v rest ih =>
    exact List.nodup_cons.2 ⟨fun inside => fresh (rest.names_list ▸ inside), ih⟩

/-- A table is determined by its entries. -/
theorem ext {t u : Table κ α} (same : t.list = u.list) : t = u := by
  obtain ⟨entries⟩ := t
  induction entries generalizing u with
  | nil =>
    obtain ⟨_ | _⟩ := u
    · rfl
    · cases same
  | cons name fresh v rest ih =>
    obtain ⟨_ | ⟨n, f, w, more⟩⟩ := u
    · cases same
    · obtain ⟨head, behind⟩ := List.cons.inj same
      cases head
      cases ih (u := ⟨more⟩) behind
      rfl

/-- The table of entries with names that are all different. -/
def ofList (b : Bindings κ α) (distinct : b.names.Nodup) : Table κ α := ⟨Entries.ofList b distinct⟩

theorem list_ofList (b : Bindings κ α) (distinct : b.names.Nodup) : (ofList b distinct).list = b :=
  Entries.list_ofList b distinct

def empty : Table κ α := ⟨.nil⟩

variable [DecidableEq κ]

/-- What a table holds under a name. -/
def get? (t : Table κ α) (name : κ) : Option α := t.list.get? name

/-- A table with entries laid over it, one after the other. -/
def extend (t : Table κ α) (more : Bindings κ α) : Table κ α :=
  ofList (t.list.update more) (Bindings.nodup_update t.nodup_list more)

theorem list_extend (t : Table κ α) (more : Bindings κ α) : (t.extend more).list = t.list.update more :=
  list_ofList _ _

/-- The table that binding entries one after the other leaves; of several of one name the last counts. -/
def ofEntries (more : Bindings κ α) : Table κ α := empty.extend more

def set (t : Table κ α) (name : κ) (v : α) : Table κ α := t.extend [(name, v)]

/-- A table over another one. -/
def update (t more : Table κ α) : Table κ α := t.extend more.list

end Table

end TemplateBuiltins
