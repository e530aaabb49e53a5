/-
# Proofs.Value.Keys -- which keys keep a value from being written

JSON text has names for texts, numbers, truth values and null, and for no other keys.  What
is joined is written as JSON where it is a mapping, so a key without a name keeps it from
being written; the first such key in the order of writing is the one that is reported
(`Value.refusedKey?`).  If a value can be shown, nothing else keeps it: then it is written if
and only if all its keys have names (`Value.json_settled`, `Value.itemText_settled`).
-/
import TemplateBuiltins.Proofs.Value.Shown
import TemplateBuiltins.Rendering

set_option autoImplicit false

namespace TemplateBuiltins

/-! ## The first key without a name -/

/-- The type of a key that has no name in JSON text. -/
def Key.refused? : Key → Option String
  | .text _ => none
  | .other k => if k.member.isSome then none else some k.typeName

mutual

/-- The type of the first key without a name in the mappings that are written for a value. -/
def Value.refusedKey? : Value → Option String
  | .array items => refusedKeyOfItems? items
  | .tuple items => refusedKeyOfItems? items
  | .object (.entries .plain ⟨fields⟩) => refusedKeyOfFields? fields
  | .object (.entries .callable ⟨fields⟩) => refusedKeyOfFields? fields
  | _ => none

def refusedKeyOfItems? : List Value → Option String
  | [] => none
  | v :: rest => v.refusedKey?.or (refusedKeyOfItems? rest)

def refusedKeyOfFields? {keys : List Key} : Entries Key Value keys → Option String
  | .nil => none
  | .cons key _ v rest => key.refused?.or (v.refusedKey?.or (refusedKeyOfFields? rest))

end

theorem refusedKeyOfItems?_eq_none_iff (items : List Value) :
    refusedKeyOfItems? items = none ↔ ∀ v ∈ items, v.refusedKey? = none := by
  induction items with
  | nil => simp [refusedKeyOfItems?]
  | cons v rest ih => rw [refusedKeyOfItems?, Option.or_eq_none_iff, ih, List.forall_mem_cons]

/-! ## What is settled by it -/

/-- There is a result unless a key is refused, and then that is the failure. -/
inductive KeysSettle {α : Type} : Option String → Except Failure α → Prop
  | written (a : α) : KeysSettle none (.ok a)
  | refused (typeName : String) : KeysSettle (some typeName) (.error (.keyRefused typeName))

namespace KeysSettle

variable {α β γ : Type} {first second : Option String} {x : Except Failure α} {y : Except Failure β}

theorem map (settled : KeysSettle first x) (f : α → β) : KeysSettle first (x.map f) := by
  cases settled with
  | written a => exact .written (f a)
  | refused typeName => exact .refused typeName

/-- Of two parts the first that is refused settles both. -/
theorem bind (settled : KeysSettle first x) {f : α → Except Failure β}
    (next : ∀ a, KeysSettle second (f a)) : KeysSettle (first.or second) (x >>= f) := by
  cases settled with
  | written a => exact next a
  | refused typeName => exact .refused typeName

theorem exists_ok_iff (settled : KeysSettle first x) : (∃ a, x = .ok a) ↔ first = none := by
  cases settled <;> simp

theorem eq_error (settled : KeysSettle first x) {typeName : String} (refused : first = some typeName) :
    x = .error (.keyRefused typeName) := by
  cases settled with
  | written a => cases refused
  | refused other =>
      cases refused
      rfl

theorem error_eq (settled : KeysSettle first x) {f : Failure} (failed : x = .error f) :
    ∃ typeName, first = some typeName ∧ f = .keyRefused typeName := by
  cases settled with
  | written a => cases failed
  | refused typeName =>
      cases failed
      exact ⟨typeName, rfl, rfl⟩

end KeysSettle

theorem Key.json_settled {k : Key} (showable : k.isShowable = true) : KeysSettle k.refused? k.json := by
  cases k with
  | text s => exact .written s
  | other k =>
      obtain ⟨literal, shown⟩ := Option.isSome_iff_exists.1 showable
      cases member : k.member with
      | none => simpa [Key.refused?, Key.json, member] using .refused k.typeName
      | some name => simpa [Key.refused?, Key.json, member, shown] using .written name

/-- What is made of the text of a value needs no names. -/
theorem Value.shown_settled {α : Type} {v : Value} (showable : v.isShowable = true) (f : List Char → α) :
    KeysSettle none (v.shown.map f) := by
  rw [Value.shown_of_isShowable showable]
  exact .written _

mutual

theorem Value.json_settled (v : Value) (showable : v.isShowable = true) : KeysSettle v.refusedKey? v.json := by
  cases v with
  | null | boolean | string | signature => exact .written _
  | number n =>
      rw [Value.isShowable] at showable
      rw [Value.json, Number.json, if_pos showable]
      exact .written _
  | array items | tuple items =>
      rw [Value.isShowable] at showable
      exact (jsonItems_settled items showable).map _
  | object m =>
      cases m with
      | entries form fields =>
          obtain ⟨fields⟩ := fields
          cases form with
          | plain | callable =>
              rw [Value.isShowable, Mapping.isShowable] at showable
              exact (jsonFields_settled fields showable).map _
          | readOnly => exact Value.shown_settled showable _
      | chain own parents => exact Value.shown_settled showable _
  | function | moment | record | foreign =>
      simp only [Value.refusedKey?, Value.json]
      exact Value.shown_settled showable _

theorem jsonItems_settled (items : List Value) (showable : allShowable items = true) :
    KeysSettle (refusedKeyOfItems? items) (jsonItems items) := by
  cases items with
  | nil => exact .written _
  | cons v rest =>
      rw [allShowable, Bool.and_eq_true] at showable
      refine (Value.json_settled v showable.1).bind fun j => ?_
      exact (jsonItems_settled rest showable.2).map (j :: ·)

theorem jsonFields_settled {keys : List Key} (fields : Entries Key Value keys)
    (showable : fieldsShowable fields = true) :
    KeysSettle (refusedKeyOfFields? fields) (jsonFields fields) := by
  cases fields with
  | nil => exact .written _
  | cons key fresh v rest =>
      rw [fieldsShowable, Bool.and_eq_true, Bool.and_eq_true] at showable
      obtain ⟨⟨named, first⟩, others⟩ := showable
      refine (Key.json_settled named).bind fun name => (Value.json_settled v first).bind fun j => ?_
      exact (jsonFields_settled rest others).map ((name, j) :: ·)

end

mutual

/-- **An item that can be shown has a text unless a key in it has no name.** -/
theorem Value.itemText_settled (v : Value) (showable : v.isShowable = true) :
    KeysSettle v.refusedKey? v.itemText := by
  cases v with
  | null | number | signature => exact .written _
  | array items | tuple items =>
      rw [Value.isShowable] at showable
      exact (itemTexts_settled items showable).map _
  | object m => exact (Value.json_settled (.object m) showable).map _
  | boolean | string | function | moment | record | foreign =>
      simp only [Value.refusedKey?, Value.itemText]
      exact Value.shown_settled showable _

theorem itemTexts_settled (items : List Value) (showable : allShowable items = true) :
    KeysSettle (refusedKeyOfItems? items) (itemTexts items) := by
  cases items with
  | nil => exact .written _
  | cons v rest =>
      rw [allShowable, Bool.and_eq_true] at showable
      refine (Value.itemText_settled v showable.1).bind fun text => ?_
      exact (itemTexts_settled rest showable.2).map (text :: ·)

end

end TemplateBuiltins
