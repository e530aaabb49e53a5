/-
# Proofs.Json.Values -- JSON values among template values

A value of JSON is built from null, truth values, texts, numbers, arrays and plain objects
whose keys are texts, and its integers are short enough to be read (`Value.IsJson`).  A JSON
value that is read denotes such a value (`Value.isJson_ofJson`), and each of them is written
as a JSON value that denotes it again (`Value.IsJson.exists_json`).  Results of functions of
the catalog are among them if they can be shown (`Value.IsResult.isJson`).

No call on values of JSON escapes the family of failed calls, if what its context has for the
present is one of them too: they can all be shown, their keys have names, and none of them is
a moment (`Builtin.call_cases_of_isJson`).
-/
import TemplateBuiltins.Proofs.Catalog.Failures
import TemplateBuiltins.Proofs.Context.Merge
import TemplateBuiltins.Proofs.Json.RoundTrip

set_option autoImplicit false

namespace TemplateBuiltins

namespace Value

/-- What JSON text can denote. -/
inductive IsJson : Value → Prop
  | null : IsJson .null
  | boolean (b : Bool) : IsJson (.boolean b)
  | string (s : String) : IsJson (.string s)
  | number {n : Number} (showable : n.isShowable = true) : IsJson (.number n)
  | array {items : List Value} (all : ∀ v ∈ items, v.IsJson) : IsJson (.array items)
  | fields {fields : Table Key Value} (texts : ∀ e ∈ fields.list, ∃ name, e.1 = .text name)
      (all : ∀ e ∈ fields.list, e.2.IsJson) : IsJson (.ofFields fields)

/-! ## What JSON values denote -/

theorem valuesOfItems_eq_map (items : List Json) : valuesOfItems items = items.map ofJson := by
  induction items with
  | nil => rfl
  | cons j rest ih => rw [valuesOfItems, ih, List.map_cons]

theorem valuesOfMembers_eq_map (members : List (String × Json)) :
    valuesOfMembers members = members.map fun m => (.text m.1, ofJson m.2) := by
  induction members with
  | nil => rfl
  | cons m rest ih => rw [valuesOfMembers, ih, List.map_cons]

/-- **What is read denotes a value of JSON.** -/
theorem isJson_ofJson {j : Json} (admitted : j.Admitted) : (ofJson j).IsJson := by
  induction admitted with
  | null => exact .null
  | boolean b => exact .boolean b
  | number showable => exact .number showable
  | string s => exact .string s
  | array all ih =>
      rw [ofJson, valuesOfItems_eq_map]
      exact .array (List.forall_mem_map.2 ih)
  | object all ih =>
      rw [ofJson, valuesOfMembers_eq_map]
      refine .fields (Table.forall_ofEntries ?_) (Table.forall_ofEntries ?_)
      · exact List.forall_mem_map.2 fun m _ => ⟨m.1, rfl⟩
      · exact List.forall_mem_map.2 ih

namespace IsJson

variable {v : Value}

theorem isShowable (json : v.IsJson) : v.isShowable = true := by
  induction json with
  | null | boolean | string => rfl
  | number showable => exact (isShowable_number _).trans showable
  | array all ih =>
      rw [isShowable_array, allShowable_iff]
      exact ih
  | @fields fields texts all ih =>
      rw [isShowable_ofFields_iff]
      intro e inside
      obtain ⟨name, text⟩ := texts e inside
      exact ⟨by rw [text]; rfl, ih e inside⟩

theorem ne_moment (json : v.IsJson) (z : ZonedMoment) : v ≠ .moment z := by
  cases json <;> exact nofun

/-! ## How they are written -/

/-- A value is written as a JSON value that is read and denotes it. -/
def Written (v : Value) : Prop := ∃ j : Json, v.json = .ok j ∧ j.Admitted ∧ ofJson j = v

theorem exists_jsonItems {items : List Value} (all : ∀ v ∈ items, Written v) :
    ∃ js, jsonItems items = .ok js ∧ (∀ j ∈ js, j.Admitted) ∧ valuesOfItems js = items := by
  induction items with
  | nil => exact ⟨[], rfl, List.forall_mem_nil _, rfl⟩
  | cons v rest ih =>
      obtain ⟨⟨j, first, admitted, denotes⟩, others⟩ := List.forall_mem_cons.1 all
      obtain ⟨js, written, more, same⟩ := ih others
      refine ⟨j :: js, ?_, List.forall_mem_cons.2 ⟨admitted, more⟩, ?_⟩
      · rw [jsonItems, first, written]
        rfl
      · rw [valuesOfItems, denotes, same]

theorem exists_jsonFields {keys : List Key} (fields : Entries Key Value keys)
    (texts : ∀ e ∈ fields.list, ∃ name, e.1 = .text name) (all : ∀ e ∈ fields.list, Written e.2) :
    ∃ ms, jsonFields fields = .ok ms ∧ (∀ m ∈ ms, m.2.Admitted) ∧ valuesOfMembers ms = fields.list := by
  induction fields with
  | nil => exact ⟨[], rfl, List.forall_mem_nil _, rfl⟩
  | cons key fresh v rest ih =>
      obtain ⟨⟨name, rfl⟩, otherTexts⟩ := List.forall_mem_cons.1 texts
      obtain ⟨⟨j, first, admitted, denotes⟩, others⟩ := List.forall_mem_cons.1 all
      obtain ⟨ms, written, more, same⟩ := ih otherTexts others
      refine ⟨(name, j) :: ms, ?_, List.forall_mem_cons.2 ⟨admitted, more⟩, ?_⟩
      · rw [jsonFields, Key.json, first, written]
        rfl
      · rw [valuesOfMembers, denotes, same, Entries.list]

/-- **A value of JSON is written as a JSON value that denotes it.** -/
theorem exists_json (json : v.IsJson) : ∃ j : Json, v.json = .ok j ∧ j.Admitted ∧ ofJson j = v := by
  induction json with
  | null => exact ⟨.null, rfl, .null, rfl⟩
  | boolean b => exact ⟨.boolean b, rfl, .boolean b, rfl⟩
  | string s => exact ⟨.string s, rfl, .string s, rfl⟩
  | @number n showable =>
      exact ⟨.number n, by rw [Value.json, Number.json, if_pos showable], .number showable, rfl⟩
  | array all ih =>
      obtain ⟨js, written, admitted, denotes⟩ := exists_jsonItems ih
      refine ⟨.array js, ?_, .array admitted, ?_⟩
      · rw [Value.json, written]
        rfl
      · rw [ofJson, denotes]
  | @fields fields texts all ih =>
      obtain ⟨ms, written, admitted, denotes⟩ := exists_jsonFields fields.entries texts ih
      refine ⟨.object ms, ?_, .object admitted, ?_⟩
      · rw [ofFields, Value.json, written]
        rfl
      · rw [ofJson, denotes]
        exact congrArg ofFields fields.ofEntries_list

theorem refusedKey?_eq_none (json : v.IsJson) : v.refusedKey? = none := by
  obtain ⟨j, written, -⟩ := json.exists_json
  exact (v.json_settled json.isShowable).exists_ok_iff.1 ⟨j, written⟩

theorem of_lists (json : v.IsJson) {items : List Value} (lists : v.Lists items) : ∀ w ∈ items, w.IsJson := by
  cases lists with
  | array =>
      cases json with
      | array all => exact all
  | tuple => cases json
  | signature => cases json

end IsJson

/-- A result that can be shown is a value of JSON. -/
theorem IsResult.isJson {v : Value} (result : v.IsResult) (showable : v.isShowable = true) : v.IsJson := by
  cases result with
  | number n => exact .number ((isShowable_number n).symm.trans showable)
  | boolean b => exact .boolean b
  | text s => exact .string s
  | texts parts => exact .array (List.forall_mem_map.2 fun s _ => .string s)

variable {bindings : Table Key Value}

theorem isJson_empty : (ofFields .empty).IsJson := .fields (List.forall_mem_nil _) (List.forall_mem_nil _)

theorem IsJson.set (json : (ofFields bindings).IsJson) (name : String) {v : Value} (value : v.IsJson) :
    (ofFields (bindings.set (.text name) v)).IsJson := by
  cases json with
  | fields texts all =>
      refine .fields ?_ ?_
      · rw [Table.list_set]
        exact Bindings.forall_set texts ⟨name, rfl⟩
      · rw [Table.list_set]
        exact Bindings.forall_set all value

/-- The catalog has nothing for the present, so a merged context has what was merged. -/
theorem now_merged (bindings : Table Key Value) :
    (ofFields (ofFields bindings).merged).now = (bindings.get? (.text "now")).getD .null := by
  have held := get?_merged (ofFields bindings) "now"
  have unnamed : (Builtin.ofName? "now").map (fun b => function (.builtin b)) = none := by decide
  rw [unnamed, Option.or_none] at held
  show ((ofFields bindings).merged.get? (.text "now")).getD .null = _
  rw [held]
  rfl

theorem IsJson.now (json : (ofFields bindings).IsJson) : (ofFields (ofFields bindings).merged).now.IsJson := by
  rw [now_merged]
  cases found : bindings.get? (.text "now") with
  | none => exact .null
  | some v =>
      cases json with
      | fields texts all => exact all _ (Table.mem_of_get? found)

end Value

/-! ## Calls -/

namespace Builtin

variable {b : Builtin} {context : Value} {args : List Value}

theorem not_escape_of_isJson (present : context.now.IsJson) (all : ∀ v ∈ args, v.IsJson)
    (r : Failure.Report) : ¬ b.Escape context args r := by
  intro escape
  cases escape with
  | unshown hidden => exact hidden fun v inside => (all v inside).isShowable
  | unnamed shown joins refused =>
      obtain ⟨-, v, w, rest, rfl, lists, -⟩ := joins
      have items := (all v List.mem_cons_self).of_lists lists
      have named := (refusedKeyOfItems?_eq_none_iff _).2 fun w inside => (items w inside).refusedKey?_eq_none
      rw [named] at refused
      cases refused
  | lost counts lost => exact present.ne_moment _ counts.2.1
  | unshownPresent counts hidden =>
      rw [← counts.2.1, present.isShowable] at hidden
      cases hidden

/-- **A call on values of JSON has a result or a failure of the family of failed calls.** -/
theorem call_cases_of_isJson (clock : Moment) (b : Builtin) (present : context.now.IsJson)
    (all : ∀ v ∈ args, v.IsJson) :
    (∃ v, b.call clock context args = .ok v ∧ v.IsResult) ∨
      ∃ f, b.call clock context args = .error f ∧ f.report.family.isInvocation = true := by
  rcases b.call_cases clock context args with answered | ⟨f, -, escape⟩ | refused
  · exact .inl answered
  · exact absurd escape (not_escape_of_isJson present all _)
  · exact .inr refused

end Builtin

end TemplateBuiltins
