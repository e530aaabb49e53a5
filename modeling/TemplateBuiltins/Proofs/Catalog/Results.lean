/-
# Proofs.Catalog.Results -- what functions of the catalog answer

Arguments that a check lets through are of the kinds that a body is written for, so no
body refuses them as misapplied.  Every function but two then has an answer, which is a
number, a truth value, a text or a list of texts (`Value.IsResult`,
`Builtin.run_of_accepts`).  The two are `fromNow`, which answers with a timestamp or
fails as timestamps do (`Builtin.fromNow_of_accepts`), and `join`, which puts its
separator between the texts of the items if they all have texts
(`Builtin.join_of_accepts`).
-/
import TemplateBuiltins.Catalog
import TemplateBuiltins.Proofs.Calls.Acceptance
import TemplateBuiltins.Proofs.Value.Keys

set_option autoImplicit false

namespace TemplateBuiltins

/-! ## Values of a kind -/

namespace Value

theorem isNumber_iff (v : Value) : v.isNumber = true ↔ ∃ n, v = .number n := by
  cases v <;> simp [isNumber]

theorem isString_iff (v : Value) : v.isString = true ↔ ∃ s, v = .string s := by
  cases v <;> simp [isString]

theorem isArray_iff (v : Value) :
    v.isArray = true ↔ (∃ items, v = .array items) ∨ (∃ items, v = .tuple items) ∨ ∃ s, v = .signature s := by
  cases v <;> simp [isArray]

/-- A text or a number. -/
inductive IsTextual : Value → Prop
  | text (s : String) : IsTextual (.string s)
  | number (n : Number) : IsTextual (.number n)

/-- An array and its items. -/
inductive Lists : Value → List Value → Prop
  | array (items : List Value) : Lists (.array items) items
  | tuple (items : List Value) : Lists (.tuple items) items
  | signature (s : Signature) : Lists (.signature s) s.items

theorem Lists.isArray {v : Value} {items : List Value} (lists : v.Lists items) : v.isArray = true := by
  cases lists <;> rfl

/-- An array can be shown if its items can. -/
theorem Lists.isShowable {v : Value} {items : List Value} (lists : v.Lists items) :
    v.isShowable = allShowable items := by
  cases lists with
  | array => rw [isShowable_array]
  | tuple => rw [isShowable_tuple]
  | signature s => rfl

/-- A number, a truth value, a text or a list of texts. -/
inductive IsResult : Value → Prop
  | number (n : Number) : IsResult (.number n)
  | boolean (b : Bool) : IsResult (.boolean b)
  | text (s : String) : IsResult (.string s)
  | texts (parts : List String) : IsResult (.array (parts.map .string))

theorem isResult_ofText (s : List Char) : (ofText s).IsResult := .text _

theorem isResult_ofTexts (parts : List (List Char)) : (array (parts.map ofText)).IsResult := by
  have same : parts.map ofText = (parts.map String.ofList).map string := by
    rw [List.map_map]
    rfl
  exact same ▸ .texts _

end Value

namespace Signature

theorem matchesValue_only (k : Kind) (v : Value) : (only k).matchesValue v = v.hasKind k := by
  simp [matchesValue, only]

theorem matchesValue_anyOf (k : Kind) (others : List Kind) (v : Value) :
    (anyOf k others).matchesValue v = (v.hasKind k || others.any v.hasKind) := by
  simp [matchesValue, anyOf]

theorem matchesValue_number_iff (v : Value) :
    (only .number).matchesValue v = true ↔ ∃ n, v = .number n := by
  rw [matchesValue_only]
  exact v.isNumber_iff

theorem matchesValue_string_iff (v : Value) :
    (only .string).matchesValue v = true ↔ ∃ s, v = .string s := by
  rw [matchesValue_only]
  exact v.isString_iff

theorem matchesValue_stringOrNumber_iff (v : Value) :
    Builtin.stringOrNumber.matchesValue v = true ↔ v.IsTextual := by
  constructor
  · intro kind
    simp only [Builtin.stringOrNumber, matchesValue_anyOf, Value.hasKind, List.any_cons, List.any_nil,
      Bool.or_false, Bool.or_eq_true, Value.isString_iff, Value.isNumber_iff] at kind
    rcases kind with ⟨s, rfl⟩ | ⟨n, rfl⟩
    · exact .text s
    · exact .number n
  · intro textual
    cases textual <;> rfl

theorem matchesValue_array_of_lists {v : Value} {items : List Value} (lists : v.Lists items) :
    (only .array).matchesValue v = true := by
  rw [matchesValue_only]
  exact lists.isArray

/-- Every value of some kind is found to be of a kind. -/
theorem exists_kind?_of_anyKind {v : Value} (given : Builtin.anyKind.matchesValue v = true) :
    ∃ k, v.kind? = some k := by
  rw [← Option.isSome_iff_exists, Value.kind?, List.find?_isSome]
  obtain ⟨k, -, kind⟩ := List.any_eq_true.1 given
  exact ⟨k, Kind.mem_all k, kind⟩

end Signature

/-! ## Bodies -/

namespace Catalog

open Signature (matchesValue_number_iff matchesValue_string_iff matchesValue_stringOrNumber_iff)

variable {given : List Value} (context : Value)

/-- The values are of the kinds of the signatures, one for one. -/
abbrev Matching (signatures : List Signature) (given : List Value) : Prop :=
  List.Forall₂ (fun s v => s.matchesValue v = true) signatures given

/-- The body has an answer for the values. -/
def Answers (body : Body) (context : Value) (given : List Value) : Prop :=
  ∃ v, body.run context given = .ok v ∧ v.IsResult

theorem exists_of_matching_singleton {s : Signature} (matching : Matching [s] given) :
    ∃ v, given = [v] ∧ s.matchesValue v = true := by
  cases matching with
  | cons first rest =>
      cases rest
      exact ⟨_, rfl, first⟩

theorem answers_ofOne {f : Value → Except Failure Value} {s : Signature}
    (result : ∀ v, s.matchesValue v = true → ∃ r, f v = .ok r ∧ r.IsResult)
    (matching : Matching [s] given) : Answers (ofOne f) context given := by
  obtain ⟨v, rfl, kind⟩ := exists_of_matching_singleton matching
  exact result v kind

theorem answers_ofNumber {f : Number → Value} (result : ∀ n, (f n).IsResult)
    (matching : Matching [.only .number] given) : Answers (ofNumber f) context given := by
  obtain ⟨v, rfl, kind⟩ := exists_of_matching_singleton matching
  obtain ⟨n, rfl⟩ := (matchesValue_number_iff v).1 kind
  exact ⟨f n, rfl, result n⟩

theorem answers_ofString {f : List Char → Value} (result : ∀ s, (f s).IsResult)
    (matching : Matching [.only .string] given) : Answers (ofString f) context given := by
  obtain ⟨v, rfl, kind⟩ := exists_of_matching_singleton matching
  obtain ⟨s, rfl⟩ := (matchesValue_string_iff v).1 kind
  exact ⟨f s.toList, rfl, result _⟩

theorem exists_numbers? (numeric : ∀ v ∈ given, (Signature.only .number).matchesValue v = true) :
    ∃ ns, numbers? given = some ns ∧ ns.length = given.length := by
  induction given with
  | nil => exact ⟨[], rfl, rfl⟩
  | cons v rest ih =>
      obtain ⟨n, rfl⟩ := (matchesValue_number_iff v).1 (numeric v (by simp))
      obtain ⟨ns, read, long⟩ := ih fun w inside => numeric w (by simp [inside])
      exact ⟨n :: ns, by simp [numbers?, read], by simp [long]⟩

theorem answers_ofNumbers (f : Number → List Number → Number) (some : given ≠ [])
    (numeric : ∀ v ∈ given, (Signature.only .number).matchesValue v = true) :
    Answers (ofNumbers f) context given := by
  obtain ⟨ns, read, long⟩ := exists_numbers? numeric
  cases ns with
  | nil => exact absurd (List.eq_nil_of_length_eq_zero long.symm) some
  | cons n rest => exact ⟨.number (f n rest), by simp [Body.run, ofNumbers, read], .number _⟩

/-! ## Texts and numbers as texts -/

theorem subject?_eq_text {v : Value} (textual : v.IsTextual) : subject? v = some v.text := by
  cases textual <;> rfl

theorem exists_lists {v : Value} (kind : (Signature.only .array).matchesValue v = true) :
    ∃ items, v.Lists items := by
  rw [Signature.matchesValue_only] at kind
  rcases v.isArray_iff.1 kind with ⟨items, rfl⟩ | ⟨items, rfl⟩ | ⟨s, rfl⟩
  · exact ⟨_, .array items⟩
  · exact ⟨_, .tuple items⟩
  · exact ⟨_, .signature s⟩

theorem split_one {v : Value} (subject : v.IsTextual) : split [v] = .ok (.array [.ofText v.text]) := by
  simp only [split, subject?_eq_text subject]

theorem split_two {v w : Value} (rest : List Value) (subject : v.IsTextual) (delimiter : w.IsTextual) :
    split (v :: w :: rest) = .ok (.array ((Text.cut w.text v.text).map .ofText)) := by
  simp only [split, subject?_eq_text subject, subject?_eq_text delimiter]

theorem answers_split (some : given ≠ [])
    (textual : ∀ v ∈ given, Builtin.stringOrNumber.matchesValue v = true) :
    Answers (.pure split) context given := by
  cases given with
  | nil => exact absurd rfl some
  | cons v rest =>
      have subject := (matchesValue_stringOrNumber_iff v).1 (textual v (by simp))
      cases rest with
      | nil => exact ⟨_, split_one subject, Value.isResult_ofTexts [v.text]⟩
      | cons w rest =>
          have delimiter := (matchesValue_stringOrNumber_iff w).1 (textual w (by simp))
          exact ⟨_, split_two rest subject delimiter, Value.isResult_ofTexts _⟩

/-- What `join` makes of the texts of items. -/
def joinTexts (separator : Value) (items : List Value) : Except Failure Value :=
  (itemTexts items).map fun texts => .ofText (Text.glue separator.text texts)

theorem join_eq {v w : Value} {items : List Value} (lists : v.Lists items) (separator : w.IsTextual) :
    join [v, w] = joinTexts w items := by
  have listed : items? v = some items := by cases lists <;> rfl
  simp only [join, listed, subject?_eq_text separator, joinTexts]

/-- What is joined has a text for each item, or the first key without a name is reported. -/
theorem joinTexts_settled (separator : Value) {items : List Value} (shown : allShowable items = true) :
    KeysSettle (refusedKeyOfItems? items) (joinTexts separator items) :=
  (itemTexts_settled items shown).map _

theorem answers_length {v : Value} (kind : (Signature.anyOf .string [.array]).matchesValue v = true) :
    ∃ r, length v = .ok r ∧ r.IsResult := by
  simp only [Signature.matchesValue_anyOf, Value.hasKind, List.any_cons, List.any_nil, Bool.or_false,
    Bool.or_eq_true, Value.isString_iff, Value.isArray_iff] at kind
  rcases kind with ⟨s, rfl⟩ | ⟨items, rfl⟩ | ⟨items, rfl⟩ | ⟨s, rfl⟩
  all_goals exact ⟨_, rfl, .number _⟩

theorem answers_typeof {v : Value} (kind : Builtin.anyKind.matchesValue v = true) :
    ∃ r, typeof v = .ok r ∧ r.IsResult := by
  obtain ⟨k, found⟩ := Signature.exists_kind?_of_anyKind kind
  exact ⟨.string k.name, by simp only [typeof, found], .text _⟩

theorem answers_defined (matching : Matching [.only .string] given) :
    Answers (.contextual defined) context given := by
  obtain ⟨v, rfl, kind⟩ := exists_of_matching_singleton matching
  obtain ⟨name, rfl⟩ := (matchesValue_string_iff v).1 kind
  exact ⟨.boolean (context.owns name), rfl, .boolean _⟩

end Catalog

/-! ## Functions -/

/-- What the clock shows in examples, where nothing depends on it. -/
def Moment.midnight : Moment := ⟨2000, 1, 1, 0, 0, 0, 0, by decide⟩

namespace Builtin

open Catalog

variable {clock : Moment} {b : Builtin} {args : List Value}

/-- A function that takes one or more arguments of a signature is given at least one. -/
theorem forwarded_several {s : Signature} (parameters : b.parameters = .several s)
    (accepts : (b.definition clock).Accepts args) :
    (b.definition clock).forwarded args = args ∧ args ≠ [] ∧ ∀ v ∈ args, s.matchesValue v = true := by
  have all : (b.definition clock).variadic = some s := by
    show b.parameters.variadic = some s
    rw [parameters]
    rfl
  have least : (b.definition clock).floor? = some 1 := by
    show b.parameters.floor? = some 1
    rw [parameters]
    rfl
  obtain ⟨same, kinds⟩ := accepts.forwarded_variadic all
  refine ⟨same, ?_, kinds⟩
  rintro rfl
  have := accepts.minimum 1 least
  simp at this

theorem forwarded_fixed {positions : List Signature} (parameters : b.parameters = .fixed positions)
    (accepts : (b.definition clock).Accepts args) : Matching positions ((b.definition clock).forwarded args) := by
  have fixed : (b.definition clock).variadic = none := by
    show b.parameters.variadic = none
    rw [parameters]
    rfl
  have given := accepts.forwarded_fixed fixed
  have same : (b.definition clock).positions = positions := by
    show b.parameters.positions = positions
    rw [parameters]
    rfl
  rwa [same] at given

theorem accepts_several {s : Signature} (parameters : b.parameters = .several s) (some : args ≠ [])
    (matching : ∀ v ∈ args, s.matchesValue v = true) : (b.definition clock).Accepts args := by
  refine Definition.accepts_of_variadic (s := s) ?_ ?_ matching
  · show b.parameters.variadic = _
    rw [parameters]
    rfl
  · show ∀ least, b.parameters.floor? = _ → _
    rw [parameters]
    rintro least ⟨⟩
    have := List.length_pos_iff.2 some
    omega

theorem accepts_fixed {positions : List Signature} (parameters : b.parameters = .fixed positions)
    (matching : Matching positions args) : (b.definition clock).Accepts args := by
  refine Definition.accepts_of_forall₂ ?_ ?_ ?_
  · show b.parameters.variadic = _
    rw [parameters]
    rfl
  · show b.parameters.floor? = _
    rw [parameters]
    rfl
  · show Matching b.parameters.positions args
    rwa [parameters]

/-- **A function that neither tells times nor joins answers all arguments that its check lets through.** -/
theorem run_of_accepts (timeless : b ≠ .fromNow) (apart : b ≠ .join) (accepts : (b.definition clock).Accepts args)
    (context : Value) : Answers (b.body clock) context ((b.definition clock).forwarded args) := by
  cases b with
  | fromNow => exact absurd rfl timeless
  | join => exact absurd rfl apart
  | max | min =>
      obtain ⟨same, some, numeric⟩ := forwarded_several rfl accepts
      exact same ▸ answers_ofNumbers context _ some numeric
  | split =>
      obtain ⟨same, some, textual⟩ := forwarded_several rfl accepts
      exact same ▸ answers_split context some textual
  | sqrt | ceil | floor | abs =>
      exact answers_ofNumber context (fun _ => .number _) (forwarded_fixed rfl accepts)
  | number => exact answers_ofString context (fun _ => .number _) (forwarded_fixed rfl accepts)
  | lowercase | uppercase | strip | rstrip | lstrip =>
      exact answers_ofString context (fun _ => Value.isResult_ofText _) (forwarded_fixed rfl accepts)
  | str =>
      exact answers_ofOne context (fun v _ => ⟨.ofText v.text, rfl, .text _⟩) (forwarded_fixed rfl accepts)
  | len => exact answers_ofOne context (fun _ => answers_length) (forwarded_fixed rfl accepts)
  | typeof => exact answers_ofOne context (fun _ => answers_typeof) (forwarded_fixed rfl accepts)
  | defined => exact answers_defined context (forwarded_fixed rfl accepts)

/-- A function on one text answers every text. -/
theorem call_ofString {f : List Char → Value} (parameters : b.parameters = .fixed [.only .string])
    (body : b.body clock = ofString f) (context : Value) (s : String) :
    b.call clock context [.string s] = .ok (f s.toList) := by
  have matching : Matching [.only .string] [.string s] :=
    .cons ((Signature.matchesValue_string_iff _).2 ⟨s, rfl⟩) .nil
  have accepts : (b.definition clock).Accepts [.string s] := accepts_fixed parameters matching
  have shown : Shown [.string s] := by simp [Shown, Value.isShowable_string]
  have given : (b.definition clock).forwarded [.string s] = [.string s] := by
    simp [Definition.forwarded, Parameters.limit?, definition, parameters, Parameters.fixed]
  rw [call, accepts.call_eq shown, given]
  show (b.body clock).run context [.string s] = _
  rw [body]
  rfl

/-- What `join` is given is an array and a separator, and what stands behind them does not count. -/
theorem join_of_accepts (accepts : (join.definition clock).Accepts args) (context : Value) :
    ∃ v items w rest, args = v :: w :: rest ∧ v.Lists items ∧ w.IsTextual ∧
      (join.body clock).run context ((join.definition clock).forwarded args) = joinTexts w items := by
  have matching : Matching [.only .array, stringOrNumber] (args.take 2) := forwarded_fixed rfl accepts
  rcases args with _ | ⟨v, _ | ⟨w, rest⟩⟩
  · cases matching
  · obtain _ | ⟨-, _ | _⟩ := matching
  · obtain _ | ⟨array, second⟩ := matching
    obtain _ | ⟨separator, -⟩ := second
    obtain ⟨items, lists⟩ := exists_lists array
    have textual := (Signature.matchesValue_stringOrNumber_iff w).1 separator
    exact ⟨v, items, w, rest, rfl, lists, textual, join_eq lists textual⟩

/-- What is joined are the texts of the items, behind a check that all can be shown. -/
theorem call_join {v w : Value} {items rest : List Value} (lists : v.Lists items) (textual : w.IsTextual)
    (shown : Shown (v :: w :: rest)) (context : Value) :
    join.call clock context (v :: w :: rest) = joinTexts w items := by
  have matching : Matching [.only .array, stringOrNumber] [v, w] :=
    .cons (Signature.matchesValue_array_of_lists lists)
      (.cons ((Signature.matchesValue_stringOrNumber_iff w).2 textual) .nil)
  have accepts : (join.definition clock).Accepts [v, w] := accepts_fixed rfl matching
  have given : Shown ([v, w] ++ rest) := shown
  obtain ⟨front, surplus⟩ := List.forall_mem_append.1 given
  have enough : (join.definition clock).positions.length ≤ [v, w].length := Nat.le_refl 2
  have alone : (join.definition clock).call context ([v, w] ++ rest) = (join.definition clock).call context [v, w] :=
    Definition.call_append rfl rfl enough context surplus
  show (join.definition clock).call context ([v, w] ++ rest) = _
  rw [alone, accepts.call_eq front]
  exact join_eq lists textual

/-- What `fromNow` is given are texts, the offset first. -/
theorem fromNow_of_accepts (accepts : (fromNow.definition clock).Accepts args) (context : Value) :
    ∃ offset rest, args = .string offset :: rest ∧ (∀ v ∈ rest, ∃ s, v = .string s) ∧
      (fromNow.body clock).run context ((fromNow.definition clock).forwarded args) =
        (RelativeTime.timestamp clock offset (base context rest)).map .ofText := by
  obtain ⟨same, some, textual⟩ := forwarded_several rfl accepts
  rw [same]
  cases args with
  | nil => exact absurd rfl some
  | cons v rest =>
      obtain ⟨offset, rfl⟩ := (Signature.matchesValue_string_iff v).1 (textual v (by simp))
      refine ⟨offset, rest, rfl, fun w inside => ?_, rfl⟩
      exact (Signature.matchesValue_string_iff w).1 (textual w (by simp [inside]))

end Builtin

end TemplateBuiltins
