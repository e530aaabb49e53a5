/-
# Proofs.Context.Visibility -- what a call can tell of its context

A context is asked for a name layer by layer: its own bindings first, then those it
inherits (`Value.layers`).  Two contexts are alike (`Value.Alike`) if they own the same
names and the first layer that binds `now` binds it to the same value in both; all else
in them may differ.

A body is given the context or is not, by its definition.  Without it, it cannot tell two
contexts apart (`Body.run_of_pure`); of the two functions whose bodies are given it, one
asks for a name among those the context owns, and the other for `now`, where it has no
reference of its own (`defined_of_owns`, `Catalog.fromNow_congr`).  Checks are not
given it at all, so calls in alike contexts have the same outcome (`call_alike`).
-/
import TemplateBuiltins.Proofs.Context.Merge

set_option autoImplicit false

namespace TemplateBuiltins

/-! ## Layers of bindings -/

mutual

/-- The bindings of a mapping and of those it inherits from, the innermost first. -/
def Mapping.layers : Mapping → List (Table Key Value)
  | .entries _ fields => [fields]
  | .chain own parents => own.layers ++ allLayers parents

def allLayers : List Mapping → List (Table Key Value)
  | [] => []
  | m :: rest => m.layers ++ allLayers rest

end

/-- What the first layer that binds a key binds it to. -/
def heldIn (layers : List (Table Key Value)) (key : Key) : Option Value :=
  layers.findSome? fun fields => fields.get? key

theorem heldIn_append (inner outer : List (Table Key Value)) (key : Key) :
    heldIn (inner ++ outer) key = (heldIn inner key).or (heldIn outer key) := by
  simp [heldIn, List.findSome?_append]

mutual

/-- A mapping is asked layer by layer. -/
theorem Mapping.get?_eq_heldIn (m : Mapping) (key : Key) : m.get? key = heldIn m.layers key := by
  cases m with
  | entries form fields => simp [Mapping.get?, Mapping.layers, heldIn]
  | chain own parents =>
      rw [Mapping.get?, Mapping.layers, heldIn_append, ← own.get?_eq_heldIn key,
        ← getAny?_eq_heldIn parents key]
      cases own.get? key <;> simp

theorem getAny?_eq_heldIn (ms : List Mapping) (key : Key) : getAny? key ms = heldIn (allLayers ms) key := by
  cases ms with
  | nil => simp [getAny?, allLayers, heldIn]
  | cons m rest =>
      rw [getAny?, allLayers, heldIn_append, ← m.get?_eq_heldIn key, ← getAny?_eq_heldIn rest key]
      cases m.get? key <;> simp

end

namespace Value

/-- The layers of a context; a moment has the attribute of its class that tells the time. -/
def layers : Value → List (Table Key Value)
  | .object m => m.layers
  | .record attributes => [ofAttributes attributes]
  | .moment _ => [.ofEntries [(.text "now", .function .native)]]
  | _ => []

/-- What a context holds under a name, inherited or not, null if there is nothing. -/
def held (c : Value) (name : String) : Value := (heldIn c.layers (.text name)).getD .null

theorem get?_ofAttributes (attributes : Table String Value) (name : String) :
    (ofAttributes attributes).get? (.text name) = attributes.get? name := by
  have texts : Bindings.names (attributes.list.map fun e => (Key.text e.1, e.2)) =
      attributes.list.names.map Key.text := by
    simp [Bindings.names]
  have distinct : (attributes.list.names.map Key.text).Nodup :=
    attributes.nodup_list.map fun _ _ => Key.text.inj
  rw [ofAttributes, Table.get?, Table.list_ofEntries (texts ▸ distinct), Table.get?]
  induction attributes.list with
  | nil => rfl
  | cons e rest ih =>
      rw [List.map_cons, Bindings.get?, Bindings.get?, ih]
      simp only [Key.text.injEq]

theorem now_eq_held (c : Value) : c.now = c.held "now" := by
  cases c with
  | object m => rw [now, held, layers, m.get?_eq_heldIn]
  | record attributes => simp [now, held, layers, heldIn, get?_ofAttributes]
  | moment z => rfl
  | _ => rfl

/-- Two contexts own the same names, under whatever values, and hold the same under `now`. -/
structure Alike (c d : Value) : Prop where
  names : ∀ name, (∃ v, c.ownMapping.get? (.text name) = some v) ↔ ∃ v, d.ownMapping.get? (.text name) = some v
  now : c.held "now" = d.held "now"

theorem owns_iff (c : Value) (name : String) :
    c.owns name = true ↔ ∃ v, c.ownMapping.get? (.text name) = some v := by
  rw [owns, Bindings.binds, List.contains_iff_mem, mem_names_own]

/-- Two contexts own the same names exactly if asking for any name has one answer in both. -/
theorem names_alike_iff (c d : Value) :
    (∀ name, (∃ v, c.ownMapping.get? (.text name) = some v) ↔ ∃ v, d.ownMapping.get? (.text name) = some v) ↔
      ∀ name, c.owns name = d.owns name := by
  apply forall_congr'
  intro name
  rw [Bool.eq_iff_iff, owns_iff, owns_iff]

end Value

/-! ## Bodies -/

/-- A body that is not given the context cannot tell it. -/
theorem Body.run_of_pure {body : Body} (pure : body.needsContext = false) (c d : Value) (given : List Value) :
    body.run c given = body.run d given := by
  cases body with
  | pure run => rfl
  | contextual run => simp [needsContext] at pure

namespace Catalog

theorem fromNow_congr (clock : Moment) {c d : Value} {given : List Value}
    (same : base c given.tail = base d given.tail) : fromNow clock c given = fromNow clock d given := by
  unfold fromNow
  split
  · rename_i offset rest
    rw [List.tail_cons] at same
    rw [same]
  · rfl

theorem base_congr {c d : Value} (same : c.now = d.now) (rest : List Value) : base c rest = base d rest := by
  cases rest with
  | nil => exact same
  | cons v rest => simp only [base, same]

/-- A reference that is given settles what a time is counted from. -/
theorem base_of_given {s : String} (given : s ≠ "") (c : Value) (rest : List Value) :
    base c (.string s :: rest) = .string s := by
  simp [base, Value.isTruthy, given]

end Catalog

/-! ## Calls -/

namespace Builtin

theorem call_of_pure (clock : Moment) {b : Builtin} (pure : b.needsContext = false) (c d : Value)
    (args : List Value) : b.call clock c args = b.call clock d args := by
  apply Definition.call_congr
  apply Body.run_of_pure
  rw [definition, needsContext_body, pure]

theorem needsContext_eq_false {b : Builtin} (timeless : b ≠ .fromNow) (nameless : b ≠ .defined) :
    b.needsContext = false := by
  cases b with
  | fromNow => exact absurd rfl timeless
  | defined => exact absurd rfl nameless
  | _ => rfl

theorem fromNow_call_congr (clock : Moment) {c d : Value} {args : List Value}
    (same : Catalog.base c args.tail = Catalog.base d args.tail) :
    fromNow.call clock c args = fromNow.call clock d args := by
  apply Definition.call_congr
  exact Catalog.fromNow_congr clock same

/-- **Calls tell two contexts apart only by the names they own and by what they hold under `now`.**
Most functions do not even tell these, nor does the one that tells times if it is given a reference;
and the one that asks for names tells all contexts apart that own different names. -/
theorem call_alike (clock : Moment) :
    (∀ (b : Builtin) (c d : Value) (args : List Value), c.Alike d → b.call clock c args = b.call clock d args) ∧
      (∀ b : Builtin, b ≠ .fromNow → b ≠ .defined →
        ∀ (c d : Value) (args : List Value), b.call clock c args = b.call clock d args) ∧
      (∀ (first : Value) (reference : String) (rest : List Value), reference ≠ "" →
        ∀ c d : Value, fromNow.call clock c (first :: .string reference :: rest) =
          fromNow.call clock d (first :: .string reference :: rest)) ∧
      ∀ c d : Value, (∀ args, defined.call clock c args = defined.call clock d args) →
        ∀ name, (∃ v, c.ownMapping.get? (.text name) = some v) ↔ ∃ v, d.ownMapping.get? (.text name) = some v := by
  refine ⟨?_, ?_, ?_, ?_⟩
  · intro b c d args alike
    by_cases timeless : b = .fromNow
    · subst timeless
      apply fromNow_call_congr clock
      apply Catalog.base_congr
      rw [c.now_eq_held, d.now_eq_held, alike.now]
    · by_cases nameless : b = .defined
      · subst nameless
        exact defined_of_owns clock ((c.names_alike_iff d).1 alike.names) args
      · exact call_of_pure clock (needsContext_eq_false timeless nameless) c d args
  · intro b timeless nameless
    exact call_of_pure clock (needsContext_eq_false timeless nameless)
  · intro first reference rest given c d
    apply fromNow_call_congr clock
    rw [List.tail_cons, Catalog.base_of_given given, Catalog.base_of_given given]
  · intro c d same
    rw [Value.names_alike_iff]
    intro name
    have told := same [.string name]
    rw [defined_name, defined_name] at told
    simpa using told

/-- A chain that inherits `now`. -/
def inheritingContext : Value :=
  .object (.chain (.entries .plain (.ofEntries [(.text "x", .null)]))
    [.entries .readOnly (.ofEntries [(.text "y", .null), (.text "now", .string "2017-01-19T16:27:20.974Z")])])

/-- Another one, with another value under the name that it owns, and with `now` from farther out. -/
def fartherContext : Value :=
  .object (.chain (.chain (.entries .callable (.ofEntries [(.text "x", .int 1)])) [])
    [.chain (.entries .plain .empty)
        [.entries .plain (.ofEntries [(.text "now", .string "2017-01-19T16:27:20.974Z")])],
      .entries .plain (.ofEntries [(.text "now", .null)])])

theorem call_alike_inherited :
    inheritingContext.Alike fartherContext ∧
      fromNow.call .midnight inheritingContext [.string "1 day"] =
        fromNow.call .midnight fartherContext [.string "1 day"] ∧
      join.call .midnight inheritingContext [.array [], .null] = join.call .midnight .null [.array [], .null] ∧
      fromNow.call .midnight inheritingContext [.string "1 day", .string "2017"] =
        fromNow.call .midnight .null [.string "1 day", .string "2017"] ∧
      (∃ args, defined.call .midnight inheritingContext args ≠ defined.call .midnight .null args) := by
  have alike : inheritingContext.Alike fartherContext := by
    constructor
    · intro name
      by_cases owned : "x" = name <;>
        simp [inheritingContext, fartherContext, Value.ownMapping, Mapping.get?, getAny?, Table.get?,
          Table.list_ofEntries, Bindings.names, Bindings.get?, owned]
    · rfl
  obtain ⟨same, timeless, referred, told⟩ := call_alike .midnight
  refine ⟨alike, same _ _ _ _ alike, timeless .join (by decide) (by decide) _ _ _,
    referred _ "2017" [] (by decide) _ _, ?_⟩
  apply Classical.byContradiction
  intro none
  obtain ⟨v, owned⟩ := (told inheritingContext .null (by simpa using none) "x").1 ⟨.null, rfl⟩
  cases owned

end Builtin

end TemplateBuiltins
