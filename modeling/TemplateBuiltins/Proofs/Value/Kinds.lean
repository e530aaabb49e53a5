/-
# Proofs.Value.Kinds -- the views of a value's kind

The kind of a value is settled by its form (`Value.OfKind`), and no form has two kinds.
Tests find the kind, a search over the tests finds it, a signature asks for it, and
`typeof` tells it behind a check that asks for any kind at all.  All of these agree
(`Value.kinds_agree`); in particular the body of `typeof` never sees a value that it
has no answer for.  Only a value that cannot be shown has a kind that `typeof` does not
tell (`Value.typeof_longInteger`).
-/
import TemplateBuiltins.Proofs.Catalog.Results
import TemplateBuiltins.Proofs.Signature.Alternatives

set_option autoImplicit false

namespace TemplateBuiltins

namespace Value

/-! ## The kind of a form -/

inductive OfKind : Value → Kind → Prop
  | text (s : String) : OfKind (.string s) .string
  | number (n : Number) : OfKind (.number n) .number
  | boolean (b : Bool) : OfKind (.boolean b) .boolean
  | array (items : List Value) : OfKind (.array items) .array
  | tuple (items : List Value) : OfKind (.tuple items) .array
  /-- A signature is a pair of its text and its kinds. -/
  | signature (s : Signature) : OfKind (.signature s) .array
  /-- Mappings of every form, those that can be called too. -/
  | mapping (m : Mapping) : OfKind (.object m) .object
  | function (f : Function) : OfKind (.function f) .function
  | null : OfKind .null .null

theorem OfKind.unique {v : Value} {j k : Kind} (first : v.OfKind j) (second : v.OfKind k) : j = k := by
  cases first <;> cases second <;> rfl

theorem isFunction_iff (v : Value) : v.isFunction = true ↔ ∃ f, v = .function f := by
  constructor
  · intro test
    simp only [isFunction, Bool.and_eq_true, Bool.not_eq_true'] at test
    obtain ⟨callable, other⟩ := test
    cases v with
    | function f => exact ⟨f, rfl⟩
    | object m => simp [isObject] at other
    | _ => simp [isCallable] at callable
  · rintro ⟨f, rfl⟩
    rfl

theorem hasKind_iff_ofKind (v : Value) (k : Kind) : v.hasKind k = true ↔ v.OfKind k := by
  constructor
  · intro test
    cases k with
    | string =>
        obtain ⟨s, rfl⟩ := v.isString_iff.1 test
        exact .text s
    | number =>
        obtain ⟨n, rfl⟩ := v.isNumber_iff.1 test
        exact .number n
    | array =>
        rcases v.isArray_iff.1 test with ⟨items, rfl⟩ | ⟨items, rfl⟩ | ⟨s, rfl⟩
        · exact .array items
        · exact .tuple items
        · exact .signature s
    | function =>
        obtain ⟨f, rfl⟩ := v.isFunction_iff.1 test
        exact .function f
    | boolean =>
        cases v with
        | boolean b => exact .boolean b
        | _ => cases test
    | object =>
        cases v with
        | object m => exact .mapping m
        | _ => cases test
    | null =>
        cases v with
        | null => exact .null
        | _ => cases test
  · intro form
    cases form <;> rfl

/-! ## The kind that is found -/

theorem kind?_eq_some_iff (v : Value) (k : Kind) : v.kind? = some k ↔ v.OfKind k := by
  constructor
  · intro found
    rw [← hasKind_iff_ofKind]
    exact List.find?_some found
  · intro form
    cases found : v.kind? with
    | none =>
        have missed := List.find?_eq_none.1 found k (Kind.mem_all k)
        exact absurd ((v.hasKind_iff_ofKind k).2 form) missed
    | some j =>
        have other := (v.hasKind_iff_ofKind j).1 (List.find?_some found)
        rw [other.unique form]

theorem kind?_eq_none_iff (v : Value) : v.kind? = none ↔ ∀ k, v.hasKind k = false := by
  rw [kind?, List.find?_eq_none]
  constructor
  · intro missed k
    simpa using missed k (Kind.mem_all k)
  · intro fails k _
    simp [fails k]

/-- A signature takes the values whose kind is one of its alternatives. -/
theorem matchesValue_iff (s : Signature) (v : Value) :
    s.matchesValue v = true ↔ ∃ k, v.kind? = some k ∧ k ∈ s.alternatives := by
  rw [Signature.matchesValue, List.any_eq_true]
  constructor
  · rintro ⟨k, inside, test⟩
    exact ⟨k, (v.kind?_eq_some_iff k).2 ((v.hasKind_iff_ofKind k).1 test), inside⟩
  · rintro ⟨k, found, inside⟩
    exact ⟨k, inside, (v.hasKind_iff_ofKind k).2 ((v.kind?_eq_some_iff k).1 found)⟩

theorem matchesValue_anyKind_iff (v : Value) :
    Builtin.anyKind.matchesValue v = true ↔ ∃ k, v.kind? = some k := by
  constructor
  · exact Signature.exists_kind?_of_anyKind
  · rintro ⟨k, found⟩
    have listed : k ∈ Builtin.anyKind.alternatives := by cases k <;> decide
    exact (matchesValue_iff _ v).2 ⟨k, found, listed⟩

end Value

/-! ## Telling the kind -/

namespace Builtin

variable {clock : Moment} {v : Value} {rest : List Value}

theorem typeof_of_kind {k : Kind} (kind : v.kind? = some k) (context : Value) (shown : Shown (v :: rest)) :
    typeof.call clock context (v :: rest) = .ok (.string k.name) := by
  have accepts : (typeof.definition clock).Accepts (v :: rest) := by
    refine ⟨fun _ => Nat.le_add_left 1 rest.length, nofun, ?_⟩
    rintro index s w ⟨given, position, refused⟩
    cases index with
    | zero =>
        cases given
        cases position
        rw [(v.matchesValue_anyKind_iff).2 ⟨k, kind⟩] at refused
        cases refused
    | succ index => simp [Parameters.signatureAt?, definition, parameters, Parameters.fixed] at position
  have body : Catalog.typeof v = .ok (.string k.name) := by rw [Catalog.typeof, kind]
  exact (accepts.call_eq shown context).trans body

theorem typeof_of_kindless (kindless : v.kind? = none) (context : Value) (shown : Shown (v :: rest)) :
    typeof.call clock context (v :: rest) = .error (.wrongKind typeof.name 1 anyKind v.typeName) := by
  have refused : anyKind.matchesValue v = false := by
    rw [← Bool.not_eq_true, v.matchesValue_anyKind_iff, kindless]
    simp
  have mismatch : (typeof.definition clock).mismatch? 0 (v :: rest) = some (0, anyKind, v) := by
    show (if anyKind.matchesValue v then _ else some (0, anyKind, v)) = _
    rw [refused]
    rfl
  have named : v.kindName = v.typeName := by rw [Value.kindName, kindless]
  have checked : (typeof.definition clock).checkKinds (v :: rest) =
      .error (.wrongKind typeof.name 1 anyKind v.typeName) := by
    simp only [Definition.checkKinds, mismatch, named]
    rfl
  rw [call, Definition.call_of_shown shown, Definition.check, checked]
  rfl

theorem typeof_of_nothing (context : Value) :
    typeof.call clock context [] = .error (.tooFew typeof.name 1 0) := rfl

/-- What the body refuses its check has refused before, so no call fails with the body's own failure. -/
theorem family_of_typeof {context : Value} {args : List Value} {f : Failure}
    (failed : typeof.call clock context args = .error f) : f.report.family ≠ .invalidKind := by
  by_cases shown : Shown args
  swap
  · cases (Definition.call_of_hidden shown _ context).symm.trans failed
    nofun
  cases args with
  | nil =>
      cases (typeof_of_nothing context).symm.trans failed
      nofun
  | cons v rest =>
      cases kind : v.kind? with
      | some k => cases (typeof_of_kind kind context shown).symm.trans failed
      | none =>
          cases (typeof_of_kindless kind context shown).symm.trans failed
          nofun

end Builtin

namespace Value

/-- **All views of a value's kind agree.**  A value passes one test at most, that of the kind of its
form; the search finds that kind; a signature takes the value exactly if its text names the kind; and
`typeof` tells it.  A value without a kind is refused by the check of `typeof` under the name of its
type, so it is only the body on its own that reports an invalid kind, and for such values only.  What
tells or refuses a value shows it, and where it cannot be shown the error is that of the conversion. -/
theorem kinds_agree (v : Value) :
    (∀ k, v.hasKind k = true ↔ v.OfKind k) ∧
      (∀ j k, v.hasKind j = true → v.hasKind k = true → j = k) ∧
      (∀ k, v.kind? = some k ↔ v.hasKind k = true) ∧
      (v.kind? = none ↔ ∀ k, v.hasKind k = false) ∧
      (∀ (text : String) (s : Signature), (Value.string text).signature? = .ok s →
        (s.matchesValue v = true ↔ ∃ k, v.kind? = some k ∧ Signature.Names text.toList k)) ∧
      (∀ k, v.kind? = some k → v.kindName = k.name ∧ Catalog.typeof v = .ok (.string k.name) ∧
        ∀ clock context rest, Shown (v :: rest) →
          Builtin.typeof.call clock context (v :: rest) = .ok (.string k.name)) ∧
      (v.kind? = none → v.kindName = v.typeName ∧
        (Catalog.typeof v).mapError Failure.report = .error (if v.isShowable then ⟨.invalidKind,
          s!"expected argument {String.ofList v.literal} to be a valid JSON-e type, found {v.typeName}",
          [("builtin", .string "typeof")]⟩ else Failure.unwritable) ∧
        ∀ clock context rest, Shown (v :: rest) →
          (Builtin.typeof.call clock context (v :: rest)).mapError Failure.report =
          .error ⟨.argumentType,
            s!"expected argument 1 to be string|number|boolean|array|object|null|function, found {v.typeName}",
            [("builtin", .string "typeof"), ("position", .int 1),
              ("expected", .string "string|number|boolean|array|object|null|function"),
              ("found", .string v.typeName)]⟩) ∧
      (∀ clock context args f, Builtin.typeof.call clock context args = .error f →
        f.report.family ≠ .invalidKind) ∧
      ∀ clock context args, ¬ Shown args →
        (Builtin.typeof.call clock context args).mapError Failure.report = .error Failure.unwritable := by
  refine ⟨v.hasKind_iff_ofKind, fun j k first second => ?_, fun k => ?_, v.kind?_eq_none_iff,
    fun text s denotes => ?_, fun k kind => ?_, fun kindless => ?_, fun _ _ _ _ => Builtin.family_of_typeof,
    fun clock context args hidden => ?_⟩
  · exact ((v.hasKind_iff_ofKind j).1 first).unique ((v.hasKind_iff_ofKind k).1 second)
  · rw [kind?_eq_some_iff, hasKind_iff_ofKind]
  · rw [matchesValue_iff]
    simp only [Signature.mem_alternatives_iff (Value.ofText_of_signature? denotes)]
  · refine ⟨by rw [kindName, kind], by rw [Catalog.typeof, kind], fun clock context rest shown => ?_⟩
    exact Builtin.typeof_of_kind kind context shown
  · have named : v.kindName = v.typeName := by rw [kindName, kindless]
    refine ⟨named, ?_, fun clock context rest shown => ?_⟩
    · rw [Catalog.typeof, kindless, named]
      cases showable : v.isShowable with
      | true =>
          rw [shown_of_isShowable showable]
          rfl
      | false =>
          rw [shown_of_hidden showable]
          exact congrArg Except.error Failure.report_tooLong
    · rw [Builtin.typeof_of_kindless kindless context shown]
      rfl
  · rw [Builtin.call, Definition.call_of_hidden hidden]
    exact congrArg Except.error Failure.report_tooLong

/-- A set, which has no kind. -/
def oneSet : Value := .foreign ⟨"set", "set", some "\x7b1\x7d", "\x7b1\x7d"⟩ (some [.int 1])

/-- A mapping that can be called is an object all the same, and a set is nothing. -/
theorem kinds_agree_callable :
    (∃ k, (object (.entries .callable .empty)).kind? = some k ∧ Signature.Names " function| object".toList k) ∧
      Builtin.typeof.call .midnight .null [.object (.entries .callable .empty)] = .ok (.string "object") ∧
      (Builtin.typeof.call .midnight .null [oneSet]).mapError Failure.report =
        .error ⟨.argumentType,
          "expected argument 1 to be string|number|boolean|array|object|null|function, found set",
          [("builtin", .string "typeof"), ("position", .int 1),
            ("expected", .string "string|number|boolean|array|object|null|function"),
            ("found", .string "set")]⟩ ∧
      (Builtin.typeof.call .midnight .null [.array [.int Text.longInteger]]).mapError Failure.report =
        .error Failure.unwritable := by
  have denotes : (Value.string " function| object").signature? = .ok (.anyOf .function [.object]) := by
    apply signature?_string (by decide)
    rw [Signature.kinds_eq_ok_iff, Signature.parts, Text.pieces_singleton]
    decide
  have shown {v : Value} (showable : v.isShowable = true) : Shown [v] := List.forall_mem_singleton.2 showable
  have long : (Value.array [.int Text.longInteger]).isShowable = false := by
    rw [isShowable_array, allShowable, isShowable_longInteger, Bool.false_and]
  obtain ⟨-, -, -, -, signatures, told, -, -, hidden⟩ := kinds_agree (.object (.entries .callable .empty))
  obtain ⟨-, -, -, -, -, -, refused, -, -⟩ := kinds_agree oneSet
  refine ⟨(signatures _ _ denotes).1 rfl, (told .object rfl).2.2 .midnight .null [] (shown rfl), ?_, ?_⟩
  · exact (refused rfl).2.2 .midnight .null [] (shown rfl)
  · exact hidden .midnight .null _ (not_shown_of_mem List.mem_cons_self long)

/-- An integer of more digits than are written is a number, but `typeof` does not say so. -/
theorem typeof_longInteger :
    (Value.int Text.longInteger).kind? = some .number ∧
      Builtin.typeof.call .midnight .null [.int Text.longInteger] ≠ .ok (.string Kind.number.name) := by
  refine ⟨rfl, fun answered => ?_⟩
  rw [Builtin.call, Definition.call_of_hidden (not_shown_of_mem List.mem_cons_self isShowable_longInteger)] at answered
  cases answered

end Value

end TemplateBuiltins
