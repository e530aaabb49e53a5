/-
# Proofs.Calls.Refusals -- what a refused argument is called

The report on a refused argument has two texts: what was expected there, which is the signature
of the position, and what was found, which is the name of the argument's kind.  A value is
refused only where its kind is none of the alternatives, so a value of any kind is never called
by a name that was acceptable.  A value without a kind is called by the name of its type instead,
and nothing keeps the names of types apart from the names of kinds: a bare object is of the type
`object`.  So what was found is one of the alternatives that were expected exactly where a
value without a kind has a type of that name (`Declaration.found_acceptable_iff`).

A body can report a refused argument as well, say one that it passes on to another function, and
that is passed on as it is.
-/
import TemplateBuiltins.Proofs.Signature.Reading
import TemplateBuiltins.Proofs.Value.Kinds

set_option autoImplicit false

namespace TemplateBuiltins

/-! ## Names of kinds and of types -/

namespace Value

theorem kindName_eq_name_iff (v : Value) (k : Kind) :
    v.kindName = k.name ↔ v.kind? = some k ∨ v.kind? = none ∧ v.typeName = k.name := by
  rw [kindName]
  cases kind : v.kind? with
  | none => simp
  | some j =>
      have injective : j.name = k.name ↔ j = k := by
        constructor
        · intro same
          exact Kind.name_toList_injective (congrArg String.toList same)
        · rintro rfl
          rfl
      simp [injective]

/-- What a value is called stands in the text of a signature that refuses it only if that is its type. -/
theorem kindName_mem_splitOn_iff {s : Signature} {v : Value} (refused : s.matchesValue v = false) :
    v.kindName.toList ∈ s.text.splitOn '|' ↔ v.kind? = none ∧ ∃ k ∈ s.alternatives, v.typeName = k.name := by
  rw [s.splitOn_text, List.mem_map]
  constructor
  · rintro ⟨k, inside, same⟩
    rcases (v.kindName_eq_name_iff k).1 (String.toList_injective same).symm with kind | ⟨kindless, type⟩
    · rw [(matchesValue_iff s v).2 ⟨k, kind, inside⟩] at refused
      cases refused
    · exact ⟨kindless, k, inside, type⟩
  · rintro ⟨kindless, k, inside, type⟩
    exact ⟨k, inside, congrArg String.toList ((v.kindName_eq_name_iff k).2 (.inr ⟨kindless, type⟩)).symm⟩

end Value

/-! ## Reports on refused arguments -/

namespace Declaration

variable {declared : Declaration} {d : Definition} {context : Value} {args : List Value}
  {r : Failure.Report}

/-- The arguments pass all checks, and the body fails on them. -/
structure BodyFails (declared : Declaration) (context : Value) (args : List Value) (f : Failure) : Prop where
  enough : declared.Enough args
  matching : ∀ index s v, ¬ declared.Mismatch args index s v
  failed : declared.body.run context (declared.checked args) = .error f

/-- A report says of a value that it was found where a signature was expected. -/
structure Refusal (r : Failure.Report) (s : Signature) (v : Value) : Prop where
  expected : r.valueOf "expected" = .ofText s.text
  found : r.valueOf "found" = .string v.kindName

/-- What a report says was found is one of the alternatives that it says were expected. -/
def FoundAcceptable (r : Failure.Report) : Prop :=
  ∃ expected found : String, r.valueOf "expected" = .string expected ∧ r.valueOf "found" = .string found ∧
    found.toList ∈ expected.toList.splitOn '|'

theorem Refusal.foundAcceptable_iff {s : Signature} {v : Value} (refusal : Refusal r s v) :
    FoundAcceptable r ↔ v.kindName.toList ∈ s.text.splitOn '|' := by
  rw [FoundAcceptable, refusal.expected, refusal.found]
  simp [Value.ofText]

theorem failure_of_mapError {x : Except Failure Value} (failed : x.mapError Failure.report = .error r) :
    ∃ f, x = .error f ∧ f.report = r := by
  cases x with
  | ok v => cases failed
  | error f =>
      cases failed
      exact ⟨f, rfl, rfl⟩

/-- Arguments are refused by a check or by the body. -/
theorem refusal_of_call (defined : declared.define = .ok d)
    (failed : (d.call context args).mapError Failure.report = .error r) (family : r.family = .argumentType) :
    (∃ f, declared.BodyFails context args f ∧ f.report = r) ∨
      ∃ index s v, declared.Mismatch args index s v ∧ Refusal r s v := by
  have becomes := define_eq_ok defined
  obtain ⟨shown, outcome⟩ := exists_outcome becomes context args
  have same : shown = .error r := (call_of_outcome becomes outcome).symm.trans failed
  cases outcome with
  | unshown | tooFew | belowMinimum | farBelowMinimum =>
      cases same
      cases family
  | wrongKind enough mismatch first =>
      cases same
      exact .inr ⟨_, _, _, mismatch, rfl, rfl⟩
  | ran enough matching body =>
      obtain ⟨f, fails, told⟩ := failure_of_mapError same
      exact .inl ⟨f, ⟨enough, matching, by rw [body]; exact fails⟩, told⟩
  | ranInContext enough matching body =>
      obtain ⟨f, fails, told⟩ := failure_of_mapError same
      exact .inl ⟨f, ⟨enough, matching, by rw [body]; exact fails⟩, told⟩

/-- **A refused argument is called by the name of an acceptable kind only if it has none and its type has
that name.**  The name of a value is that of a kind if the value has this kind, or has none and
its type is called so.  Whenever a call reports a refused argument, the body has reported it,
or it is an argument that its position refuses, and then what was found is one of the alternatives that
were expected if and only if the argument has no kind and a type of that name. -/
theorem found_acceptable_iff :
    (∀ (v : Value) (k : Kind),
        v.kindName = k.name ↔ v.kind? = some k ∨ v.kind? = none ∧ v.typeName = k.name) ∧
      ∀ (declared : Declaration) (d : Definition), declared.define = .ok d →
        ∀ (context : Value) (args : List Value) (r : Failure.Report),
          (d.call context args).mapError Failure.report = .error r → r.family = .argumentType →
          (∃ f, declared.BodyFails context args f ∧ f.report = r) ∨
            ∃ (index : Nat) (s : Signature) (v : Value), declared.Mismatch args index s v ∧
              Refusal r s v ∧
              (FoundAcceptable r ↔ v.kind? = none ∧ ∃ k ∈ s.alternatives, v.typeName = k.name) := by
  refine ⟨Value.kindName_eq_name_iff, ?_⟩
  intro declared d defined context args r failed family
  rcases refusal_of_call defined failed family with body | ⟨index, s, v, mismatch, refusal⟩
  · exact .inl body
  · refine .inr ⟨index, s, v, mismatch, refusal, ?_⟩
    rw [refusal.foundAcceptable_iff]
    exact Value.kindName_mem_splitOn_iff mismatch.refused

/-- One position for an array or an object. -/
def holder : Declaration where
  name := "holder"
  positions := [.signature (.anyOf .array [.object])]
  variadic := none
  minimum := none
  body := .pure fun _ => .ok .null

/-- A set is called by the name of its type, which is not acceptable. -/
theorem found_set_not_acceptable :
    ∃ d r, holder.define = .ok d ∧
      (d.call .null [.oneSet]).mapError Failure.report = .error r ∧ r.family = .argumentType ∧
      ¬ FoundAcceptable r := by
  refine ⟨_, _, rfl, rfl, rfl, fun acceptable => ?_⟩
  obtain ⟨-, refusals⟩ := found_acceptable_iff
  rcases refusals holder _ rfl .null [.oneSet] _ rfl rfl with
    ⟨f, body, -⟩ | ⟨index, s, v, mismatch, -, called⟩
  · cases body.failed
  · obtain ⟨-, k, -, type⟩ := called.1 acceptable
    have given := mismatch.given
    obtain rfl : v = .oneSet := by
      cases index with
      | zero => exact (Option.some.inj given).symm
      | succ index => cases given
    have unnamed : Value.oneSet.typeName ≠ k.name := by cases k <;> decide
    exact unnamed type

/-- No positions, and a body that fails as if an array had been given to another function that takes
only arrays. -/
def relay : Declaration where
  name := "relay"
  positions := []
  variadic := none
  minimum := none
  body := .pure fun _ => .error (.wrongKind "other" 1 (.only .array) "array")

/-- A bare object. -/
def bareObject : Value := .foreign ⟨"object", "object", some "<object object>", "<object object>"⟩ none

/-- A bare object has no kind, but a type whose name is acceptable to `holder` and to `typeof`; and a body
says of an argument what it will. -/
theorem found_object_acceptable :
    ¬ (∀ (v : Value) (k : Kind), v.kindName = k.name → v.kind? = some k) ∧
      (∃ d r, holder.define = .ok d ∧
        (d.call .null [bareObject]).mapError Failure.report = .error r ∧
        r.family = .argumentType ∧ FoundAcceptable r) ∧
      (∃ r, (Builtin.typeof.call .midnight .null [bareObject]).mapError Failure.report = .error r ∧
        r.family = .argumentType ∧ FoundAcceptable r) ∧
      ∃ d r, relay.define = .ok d ∧ (d.call .null []).mapError Failure.report = .error r ∧
        r.family = .argumentType ∧ FoundAcceptable r := by
  refine ⟨?_, ?_, ?_, ?_⟩
  · intro kinds
    cases kinds bareObject .object rfl
  · exact ⟨_, _, rfl, rfl, rfl, _, _, rfl, rfl, by decide⟩
  · exact ⟨_, rfl, rfl, _, _, rfl, rfl, by decide⟩
  · exact ⟨_, _, rfl, rfl, rfl, _, _, rfl, rfl, by decide⟩

end Declaration

end TemplateBuiltins
