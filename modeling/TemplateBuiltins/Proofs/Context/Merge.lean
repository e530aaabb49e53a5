/-
# Proofs.Context.Merge -- the catalog under what a context owns

A context owns one mapping (`Value.ownMapping`): a chain the first of its mappings, another
mapping itself, and anything else the mapping of its attributes.  Merging lays the bindings
of that mapping over the catalog.  A context that counts as missing is not merged at all,
but it owns nothing either, so that makes no difference (`merged_eq_update`).  What a chain
inherits never shows in the result, and merging the result again changes nothing
(`merged_own_over_catalog`).
-/
import TemplateBuiltins.Proofs.Catalog.Results
import TemplateBuiltins.Proofs.Value.Mappings

set_option autoImplicit false

namespace TemplateBuiltins

namespace Value

/-! ## What a context owns -/

/-- The mapping that belongs to a context itself. -/
def ownMapping : Value → Mapping
  | .object (.chain own _) => own
  | .object (.entries form fields) => .entries form fields
  | .record attributes => .entries .plain (ofAttributes attributes)
  | .function f => .entries .plain f.attributes
  | _ => .entries .plain .empty

theorem own_eq_bindings (c : Value) : c.own = c.ownMapping.bindings := by
  cases c with
  | object m => cases m <;> rfl
  | _ => rfl

theorem mem_names_own (c : Value) (key : Key) :
    key ∈ c.own.list.names ↔ ∃ v, c.ownMapping.get? key = some v := by
  rw [own_eq_bindings, Mapping.mem_names_bindings]

/-- Whatever counts as missing owns nothing. -/
theorem own_of_missing {c : Value} (missing : c.isTruthy = false) : c.own = .empty := by
  cases c with
  | object m =>
      have empty : m.isEmpty = true := by simpa [isTruthy] using missing
      cases m with
      | entries form fields => exact Mapping.bindings_of_isEmpty _ empty
      | chain own parents => exact own.bindings_of_isEmpty (Bool.and_eq_true_iff.1 empty).1
  | record attributes => cases missing
  | function f => cases missing
  | _ => rfl

theorem merged_eq_update (c : Value) : c.merged = catalog.update c.own := by
  rw [merged]
  split
  · rfl
  · rename_i missing
    rw [own_of_missing (by simpa using missing), Table.update_empty]

/-! ## The catalog -/

theorem names_catalog : Bindings.names (Builtin.all.map fun b => (Key.text b.name, function (.builtin b))) =
    Builtin.all.map fun b => .text b.name := by
  rw [Bindings.names, List.map_map]
  rfl

theorem list_catalog : catalog.list = Builtin.all.map fun b => (.text b.name, .function (.builtin b)) := by
  apply Table.list_ofEntries
  rw [names_catalog]
  decide

theorem get?_catalog (name : String) :
    catalog.get? (.text name) = (Builtin.ofName? name).map fun b => .function (.builtin b) := by
  rw [Table.get?, list_catalog, Bindings.get?_map Builtin.all (fun b => Key.text b.name)]
  have same : (fun b : Builtin => Key.text b.name == .text name) = fun b => b.name == name := by
    funext b
    rw [Bool.eq_iff_iff, beq_iff_eq, beq_iff_eq, Key.text.injEq]
  rw [same]
  rfl

/-- The catalog binds texts only. -/
theorem get?_catalog_other (k : OtherKey) : catalog.get? (.other k) = none := by
  rw [Table.get?, Bindings.get?_eq_none_iff, list_catalog, names_catalog, List.mem_map]
  rintro ⟨b, -, other⟩
  cases other

theorem mem_names_catalog (name : String) :
    .text name ∈ catalog.list.names ↔ ∃ b : Builtin, b.name = name := by
  rw [list_catalog, names_catalog, List.mem_map]
  constructor
  · rintro ⟨b, -, named⟩
    exact ⟨b, Key.text.inj named⟩
  · rintro ⟨b, named⟩
    exact ⟨b, b.mem_all, congrArg Key.text named⟩

end Value

/-! ## Asking whether a name is defined -/

namespace Builtin

theorem defined_name (clock : Moment) (context : Value) (name : String) :
    defined.call clock context [.string name] = .ok (.boolean (context.owns name)) := by
  have accepts : (defined.definition clock).Accepts [.string name] := accepts_fixed rfl (.cons rfl .nil)
  have shown : Shown [.string name] := by simp [Shown, Value.isShowable_string]
  exact accepts.call_eq shown context

/-- Contexts that own the same names are the same to the function. -/
theorem defined_of_owns (clock : Moment) {c d : Value} (same : ∀ name, c.owns name = d.owns name)
    (args : List Value) : defined.call clock c args = defined.call clock d args := by
  apply Definition.call_congr
  show Catalog.defined c _ = Catalog.defined d _
  unfold Catalog.defined
  split
  · rw [same]
  · rfl

theorem defined_congr (clock : Moment) {c d : Value} (same : c.own = d.own) (args : List Value) :
    defined.call clock c args = defined.call clock d args := by
  apply defined_of_owns
  intro name
  rw [Value.owns, Value.owns, same]

end Builtin

namespace Value

/-! ## Merging -/

theorem get?_merged (c : Value) (name : String) :
    c.merged.get? (.text name) =
      (c.ownMapping.get? (.text name)).or ((Builtin.ofName? name).map fun b => .function (.builtin b)) := by
  rw [merged_eq_update, own_eq_bindings, Table.get?_update, Mapping.get?_bindings, get?_catalog]

/-- Keys that are no texts are merged as they are. -/
theorem get?_merged_other (c : Value) (k : OtherKey) :
    c.merged.get? (.other k) = c.ownMapping.get? (.other k) := by
  rw [merged_eq_update, own_eq_bindings, Table.get?_update, Mapping.get?_bindings, get?_catalog_other,
    Option.or_none]

theorem owns_merged_iff (c : Value) (name : String) :
    (ofFields c.merged).owns name = true ↔
      (∃ v, c.ownMapping.get? (.text name) = some v) ∨ ∃ b : Builtin, b.name = name := by
  have own : (ofFields c.merged).own = c.merged := rfl
  rw [owns, Bindings.binds, List.contains_iff_mem, own, merged_eq_update, Table.mem_names_update,
    mem_names_catalog, mem_names_own, or_comm]

theorem merged_merged (c : Value) : (ofFields c.merged).merged = c.merged := by
  have own : (ofFields c.merged).own = c.merged := rfl
  rw [merged_eq_update (ofFields c.merged), own, merged_eq_update c, Table.update_update]

/-- **A merged context is what the context owns over the catalog**, whatever it inherits, and merging
it again changes nothing, the order of its entries included.  Being a table, it binds no key twice. -/
theorem merged_own_over_catalog (clock : Moment) (c : Value) :
    (∀ name, c.merged.get? (.text name) =
        (c.ownMapping.get? (.text name)).or ((Builtin.ofName? name).map fun b => .function (.builtin b))) ∧
      (∀ k, c.merged.get? (.other k) = c.ownMapping.get? (.other k)) ∧
      (∀ name, ∃ found, Builtin.defined.call clock (ofFields c.merged) [.string name] = .ok (.boolean found) ∧
        (found = true ↔ (∃ v, c.ownMapping.get? (.text name) = some v) ∨ ∃ b : Builtin, b.name = name)) ∧
      (∀ m ps qs, (object (.chain m ps)).own = (object (.chain m qs)).own ∧
        (∀ args, Builtin.defined.call clock (object (.chain m ps)) args =
          Builtin.defined.call clock (object (.chain m qs)) args) ∧
        (object (.chain m ps)).merged = (object (.chain m qs)).merged) ∧
      (ofFields c.merged).merged = c.merged := by
  refine ⟨c.get?_merged, c.get?_merged_other, fun name => ?_, fun m ps qs => ?_, c.merged_merged⟩
  · exact ⟨_, Builtin.defined_name clock _ name, c.owns_merged_iff name⟩
  · have same : (object (.chain m ps)).own = (object (.chain m qs)).own := rfl
    refine ⟨same, Builtin.defined_congr clock same, ?_⟩
    rw [merged_eq_update, merged_eq_update, same]

/-- A chain whose first mapping is a chain itself: both mappings of that one are its own. -/
def nestedContext : Value :=
  .object (.chain
    (.chain (.entries .plain (.ofEntries [(.text "max", .null)]))
      [.entries .readOnly (.ofEntries [(.text "a", .boolean true)])])
    [.entries .plain (.ofEntries [(.text "b", .null)])])

theorem merged_own_over_catalog_nested :
    nestedContext.merged.get? (.text "max") = some .null ∧
      nestedContext.merged.get? (.text "a") = some (.boolean true) ∧
      nestedContext.merged.get? (.text "b") = none ∧
      nestedContext.merged.get? (.text "min") = some (.function (.builtin .min)) := by
  have bound := (merged_own_over_catalog .midnight nestedContext).1
  exact ⟨bound "max", bound "a", bound "b", bound "min"⟩

end Value

end TemplateBuiltins
