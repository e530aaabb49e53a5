/-
# Proofs.Calls.Acceptance -- what a check lets through

A check lets arguments through (`Definition.Accepts`) if there are enough of them and
none is refused by its position.  Then the body answers the call, with the arguments
that have a position; otherwise the call fails with one of the three failures of a
check, which are all of the family of failed calls (`Definition.call_cases`).  A call
whose arguments cannot all be shown does not come to its check (`call_of_hidden`).

What the body is given has the kinds that the parameters name: one argument for each
position (`Accepts.forwarded_fixed`), or any arguments of the shared signature
(`Accepts.forwarded_variadic`).  What stands behind the fixed positions counts for nothing
(`Definition.call_append`).
-/
import Mathlib.Data.List.Forall2
import TemplateBuiltins.Proofs.Calls.Outcome

set_option autoImplicit false

namespace TemplateBuiltins

namespace Definition

variable {d : Definition} {args : List Value}

/-- Enough arguments, each of a kind that its position takes. -/
structure Accepts (d : Definition) (args : List Value) : Prop where
  positions : d.variadic = none → d.positions.length ≤ args.length
  minimum : ∀ least, d.floor? = some least → least ≤ args.length
  kinds : ∀ k s v, ¬ d.RefusedAt 0 args k s v

/-! ## The three checks -/

theorem checkPositions_cases (d : Definition) (found : Nat) :
    ((d.variadic = none → d.positions.length ≤ found) ∧ d.checkPositions found = .ok ()) ∨
      ∃ f, d.checkPositions found = .error f ∧ f.report.family.isInvocation = true := by
  by_cases short : d.variadic.isNone ∧ found < d.positions.length
  · exact .inr ⟨_, if_pos short, rfl⟩
  · refine .inl ⟨fun fixed => ?_, if_neg short⟩
    rw [fixed, Option.isNone_none] at short
    simpa using short

/-- The least number of arguments is short enough to be told. -/
def Tellable (d : Definition) : Prop := ∀ least, d.floor? = some least → Text.isWritable least = true

theorem checkMinimum_cases (tellable : d.Tellable) (found : Nat) :
    ((∀ least, d.floor? = some least → least ≤ found) ∧ d.checkMinimum found = .ok ()) ∨
      ∃ f, d.checkMinimum found = .error f ∧ f.report.family.isInvocation = true := by
  unfold checkMinimum
  cases floor : d.floor? with
  | none => exact .inl ⟨nofun, rfl⟩
  | some least =>
      by_cases below : (found : Int) < least
      · have told : d.refusalBelow least found = .belowMinimum d.name least found :=
          if_pos (tellable least floor)
        exact .inr ⟨_, (if_pos below).trans (congrArg Except.error told), rfl⟩
      · refine .inl ⟨fun other same => ?_, if_neg below⟩
        cases same
        exact Int.not_lt.1 below

theorem checkKinds_cases (d : Definition) (args : List Value) :
    ((∀ k s v, ¬ d.RefusedAt 0 args k s v) ∧ d.checkKinds args = .ok ()) ∨
      ∃ f, d.checkKinds args = .error f ∧ f.report.family.isInvocation = true := by
  unfold checkKinds
  cases search : d.mismatch? 0 args with
  | none => exact .inl ⟨d.mismatch?_eq_none search, rfl⟩
  | some found => exact .inr ⟨_, rfl, rfl⟩

/-! ## Calls -/

theorem call_of_shown (shown : Shown args) (d : Definition) (context : Value) :
    d.call context args = d.check args >>= fun _ => d.body.run context (d.forwarded args) := by
  rw [call, checkShown, if_pos ((allShowable_iff args).2 shown)]
  rfl

/-- Arguments that cannot be shown fail a call before it is checked. -/
theorem call_of_hidden (hidden : ¬ Shown args) (d : Definition) (context : Value) :
    d.call context args = .error (.tooLong none) := by
  rw [call, checkShown, if_neg (mt (allShowable_iff args).1 hidden)]
  rfl

/-- **A call is answered by the body, or refused with a failure of the family of failed calls**, if its
arguments can be shown. -/
theorem call_cases (shown : Shown args) (tellable : d.Tellable) (context : Value) :
    (d.Accepts args ∧ d.call context args = d.body.run context (d.forwarded args)) ∨
      ∃ f, d.call context args = .error f ∧ f.report.family.isInvocation = true := by
  rw [call_of_shown shown, check]
  rcases d.checkPositions_cases args.length with ⟨positions, enough⟩ | ⟨f, short, family⟩
  · rcases checkMinimum_cases tellable args.length with ⟨minimum, least⟩ | ⟨f, below, family⟩
    · rcases d.checkKinds_cases args with ⟨kinds, matching⟩ | ⟨f, refused, family⟩
      · refine .inl ⟨⟨positions, minimum, kinds⟩, ?_⟩
        rw [enough, least, matching]
        rfl
      · refine .inr ⟨f, ?_, family⟩
        rw [enough, least, refused]
        rfl
    · refine .inr ⟨f, ?_, family⟩
      rw [enough, below]
      rfl
  · refine .inr ⟨f, ?_, family⟩
    rw [short]
    rfl

/-- Arguments that are let through reach the body, if they can be shown. -/
theorem Accepts.call_eq (accepts : d.Accepts args) (shown : Shown args) (context : Value) :
    d.call context args = d.body.run context (d.forwarded args) := by
  have positions : d.checkPositions args.length = .ok () := by
    apply if_neg
    rintro ⟨fixed, short⟩
    have := accepts.positions (Option.isNone_iff_eq_none.1 fixed)
    omega
  have minimum : d.checkMinimum args.length = .ok () := by
    unfold checkMinimum
    cases floor : d.floor? with
    | none => rfl
    | some least => exact if_neg (Int.not_lt.2 (accepts.minimum least floor))
  have kinds : d.checkKinds args = .ok () := by
    unfold checkKinds
    cases search : d.mismatch? 0 args with
    | none => rfl
    | some found =>
        obtain ⟨k, -, refused, -⟩ := d.mismatch?_eq_some search
        exact absurd refused (accepts.kinds k _ _)
  rw [call_of_shown shown, check, positions, minimum, kinds]
  rfl

/-- Contexts in which the body does the same are the same to a call, since no check is given them. -/
theorem call_congr {c e : Value} (same : d.body.run c (d.forwarded args) = d.body.run e (d.forwarded args)) :
    d.call c args = d.call e args := by
  unfold call
  rw [same]

/-- Arguments whose check raised nothing are let through. -/
theorem accepts_of_check (passed : d.check args = .ok ()) : d.Accepts args := by
  rw [check] at passed
  rcases d.checkPositions_cases args.length with ⟨positions, enough⟩ | ⟨f, short, -⟩
  · rw [enough] at passed
    cases minimum : d.checkMinimum args.length with
    | error f =>
        rw [minimum] at passed
        cases passed
    | ok =>
        rw [minimum] at passed
        rcases d.checkKinds_cases args with ⟨kinds, -⟩ | ⟨f, refused, -⟩
        · refine ⟨positions, fun least floor => ?_, kinds⟩
          rw [checkMinimum, floor] at minimum
          by_contra fewer
          simp only [if_pos (Int.not_le.1 fewer)] at minimum
          cases minimum
        · rw [refused] at passed
          cases passed
  · rw [short] at passed
    cases passed

/-! ## Arguments of the same kinds -/

/-- The values pass the same tests of kinds, messages name their kinds alike, and both can be shown or
neither. -/
structure SameKind (v w : Value) : Prop where
  tests : v.hasKind = w.hasKind
  names : v.kindName = w.kindName
  shown : v.isShowable = w.isShowable

theorem SameKind.matchesValue_eq {v w : Value} (same : SameKind v w) (s : Signature) :
    s.matchesValue v = s.matchesValue w := by
  rw [Signature.matchesValue, Signature.matchesValue, same.tests]

variable {others : List Value}

/-- The first argument that is refused stands at one place in both lists, and is named alike. -/
theorem mismatch?_congr (d : Definition) (kinds : List.Forall₂ SameKind args others) (index : Nat) :
    (d.mismatch? index args).map (fun found => (found.1, found.2.1, found.2.2.kindName)) =
      (d.mismatch? index others).map (fun found => (found.1, found.2.1, found.2.2.kindName)) := by
  induction kinds generalizing index with
  | nil => rfl
  | cons first rest ih =>
      rw [mismatch?, mismatch?]
      cases d.signatureAt? index with
      | none => rfl
      | some s =>
          simp only [first.matchesValue_eq]
          split
          · exact ih (index + 1)
          · simp only [Option.map_some, first.names]

/-- Arguments of the same kinds are checked alike. -/
theorem check_congr (d : Definition) (kinds : List.Forall₂ SameKind args others) :
    d.check args = d.check others := by
  have faults : d.checkKinds args = d.checkKinds others := by
    have same := d.mismatch?_congr kinds 0
    unfold checkKinds
    cases here : d.mismatch? 0 args <;> cases there : d.mismatch? 0 others <;>
      simp_all
  rw [check, check, faults, kinds.length_eq]

theorem checkShown_congr (kinds : List.Forall₂ SameKind args others) : checkShown args = checkShown others := by
  have same : allShowable args = allShowable others := by
    induction kinds with
    | nil => rfl
    | cons first _ ih => rw [allShowable, allShowable, first.shown, ih]
  rw [checkShown, checkShown, same]

/-- Arguments of the same kinds are answered alike if the body answers them alike where they are let through. -/
theorem call_congr_of_kinds (kinds : List.Forall₂ SameKind args others) (context : Value)
    (same : d.Accepts args → d.body.run context (d.forwarded args) = d.body.run context (d.forwarded others)) :
    d.call context args = d.call context others := by
  rw [call, call, ← checkShown_congr kinds, ← d.check_congr kinds]
  cases checkShown args with
  | error f => rfl
  | ok =>
      cases passed : d.check args with
      | error f => rfl
      | ok => exact same (accepts_of_check passed)

/-! ## What the body is given -/

theorem Accepts.matches_at (accepts : d.Accepts args) {k : Nat} {s : Signature} {v : Value}
    (given : args[k]? = some v) (position : d.signatureAt? k = some s) : s.matchesValue v = true := by
  cases other : s.matchesValue v with
  | true => rfl
  | false => exact absurd ⟨given, by rwa [Nat.zero_add], other⟩ (accepts.kinds k s v)

/-- A function with fixed positions is given one argument for each, of a kind that it takes. -/
theorem Accepts.forwarded_fixed (accepts : d.Accepts args) (fixed : d.variadic = none) :
    List.Forall₂ (fun s v => s.matchesValue v = true) d.positions (d.forwarded args) := by
  have enough := accepts.positions fixed
  have taken : d.forwarded args = args.take d.positions.length := by
    simp [forwarded, Parameters.limit?, fixed]
  rw [taken, List.forall₂_iff_get]
  refine ⟨by rw [List.length_take, Nat.min_eq_left enough], fun k inside given => ?_⟩
  apply accepts.matches_at (k := k)
  · simp only [List.get_eq_getElem, List.getElem_take]
    exact List.getElem?_eq_getElem (by omega)
  · simp only [Parameters.signatureAt?, fixed]
    exact List.getElem?_eq_getElem inside

/-- A function with one signature for all is given every argument. -/
theorem Accepts.forwarded_variadic (accepts : d.Accepts args) {s : Signature}
    (all : d.variadic = some s) :
    d.forwarded args = args ∧ ∀ v ∈ args, s.matchesValue v = true := by
  refine ⟨by simp [forwarded, Parameters.limit?, all], fun v inside => ?_⟩
  obtain ⟨k, given⟩ := List.getElem?_of_mem inside
  exact accepts.matches_at given (by simp [Parameters.signatureAt?, all])

/-! ## Arguments that are let through -/

theorem accepts_of_forall₂ (fixed : d.variadic = none) (unbounded : d.floor? = none)
    (matching : List.Forall₂ (fun s v => s.matchesValue v = true) d.positions args) : d.Accepts args := by
  refine ⟨fun _ => Nat.le_of_eq matching.length_eq, by simp [unbounded], ?_⟩
  rintro k s v ⟨given, position, refused⟩
  simp only [Parameters.signatureAt?, fixed, Nat.zero_add] at position
  obtain ⟨inside, rfl⟩ := List.getElem?_eq_some_iff.1 position
  obtain ⟨here, rfl⟩ := List.getElem?_eq_some_iff.1 given
  have kind := matching.get inside here
  simp only [List.get_eq_getElem] at kind
  rw [kind] at refused
  cases refused

theorem accepts_of_variadic {s : Signature} (all : d.variadic = some s)
    (enough : ∀ least, d.floor? = some least → least ≤ args.length)
    (matching : ∀ v ∈ args, s.matchesValue v = true) : d.Accepts args := by
  refine ⟨by simp [all], enough, ?_⟩
  rintro k t v ⟨given, position, refused⟩
  simp only [Parameters.signatureAt?, all, Option.some.injEq] at position
  subst position
  rw [matching v (List.mem_of_getElem? given)] at refused
  cases refused

/-! ## Surplus arguments -/

theorem mismatch?_append (fixed : d.variadic = none) (surplus : List Value) {index : Nat}
    (enough : d.positions.length ≤ index + args.length) :
    d.mismatch? index (args ++ surplus) = d.mismatch? index args := by
  induction args generalizing index with
  | nil =>
      cases surplus with
      | nil => rfl
      | cons v rest =>
          have unsigned : d.signatureAt? index = none := by
            rw [Parameters.signatureAt?, fixed]
            exact List.getElem?_eq_none enough
          simp only [List.nil_append, mismatch?, unsigned]
  | cons v args ih =>
      rw [List.length_cons] at enough
      have behind : d.positions.length ≤ index + 1 + args.length := by omega
      rw [List.cons_append, mismatch?, mismatch?, ih behind]

/-- Behind the fixed positions arguments do not count, if they can be shown. -/
theorem call_append (fixed : d.variadic = none) (unbounded : d.floor? = none)
    (enough : d.positions.length ≤ args.length) (context : Value) {surplus : List Value}
    (shown : Shown surplus) : d.call context (args ++ surplus) = d.call context args := by
  have positions {found : Nat} (enough : d.positions.length ≤ found) : d.checkPositions found = .ok () :=
    if_neg fun short => Nat.not_lt.2 enough short.2
  have minimum (found : Nat) : d.checkMinimum found = .ok () := by rw [checkMinimum, unbounded]
  have kinds : d.checkKinds (args ++ surplus) = d.checkKinds args := by
    rw [checkKinds, checkKinds, mismatch?_append fixed surplus (by omega)]
  have given : d.forwarded (args ++ surplus) = d.forwarded args := by
    simp [forwarded, Parameters.limit?, fixed, List.take_append_of_le_length enough]
  have longer : d.positions.length ≤ (args ++ surplus).length := by
    rw [List.length_append]
    omega
  have first : checkShown (args ++ surplus) = checkShown args := by
    rw [checkShown, checkShown, allShowable_append, (allShowable_iff surplus).2 shown, Bool.and_true]
  rw [call, call, first, check, check, positions longer, positions enough, minimum, minimum, kinds, given]

end Definition

end TemplateBuiltins
