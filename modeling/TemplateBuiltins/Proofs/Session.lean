/-
# Proofs.Session -- what the steps of a session change and what they leave

A step that fails leaves the session as it is (`step_of_failed`).  A step that binds or
unbinds a name does so in the innermost layer of the current context
(`Mapping.layers_mapOwn?`), so that all other names keep what they are bound to, however many
such steps are taken (`lookUp_run_of_spares`), and so that nothing that a child context is
put in front of is changed behind it: once each child that was entered is left again, the
session is where it was (`run_child`).
-/
import TemplateBuiltins.Proofs.Context.Visibility
import TemplateBuiltins.Session

set_option autoImplicit false

namespace TemplateBuiltins

/-! ## Changing what a mapping owns -/

/-- Only the innermost layer is changed. -/
theorem Mapping.layers_mapOwn? {f : Bindings Key Value → Bindings Key Value} {m changed : Mapping}
    (done : m.mapOwn? f = some changed) :
    ∃ inner outer, m.layers = inner :: outer ∧ changed.layers = .ofEntries (f inner.list) :: outer := by
  cases m with
  | entries form fields =>
      cases form with
      | readOnly => cases done
      | plain | callable =>
          cases done
          exact ⟨fields, [], rfl, rfl⟩
  | chain own parents =>
      rw [Mapping.mapOwn?] at done
      obtain ⟨inside, first, rfl⟩ := Option.map_eq_some_iff.1 done
      obtain ⟨inner, outer, before, after⟩ := own.layers_mapOwn? first
      exact ⟨inner, outer ++ allLayers parents, by rw [Mapping.layers, before, List.cons_append],
        by rw [Mapping.layers, after, List.cons_append]⟩

theorem Mapping.exists_chain_of_mapOwn? {f : Bindings Key Value → Bindings Key Value} {own changed : Mapping}
    {parents : List Mapping} (done : (Mapping.chain own parents).mapOwn? f = some changed) :
    ∃ inside, changed = .chain inside parents := by
  rw [Mapping.mapOwn?] at done
  obtain ⟨inside, -, rfl⟩ := Option.map_eq_some_iff.1 done
  exact ⟨inside, rfl⟩

namespace Session

variable {clock : Moment} {s t : Session} {name key : String} {v : Value}

/-! ## One step -/

theorem exists_of_bind (bound : s.bind name v = .ok t) :
    ∃ m, s.current.mapOwn? (fun b => b.set (.text name) v) = some m ∧ t = ⟨m⟩ := by
  rw [bind] at bound
  split at bound
  · rename_i m done
    cases bound
    exact ⟨m, done, rfl⟩
  · cases bound

theorem exists_of_unbind (unbound : s.unbind name = .ok t) :
    ∃ m, s.current.mapOwn? (fun b => b.erase (.text name)) = some m ∧ t = ⟨m⟩ := by
  rw [unbind] at unbound
  split at unbound
  · rename_i m done
    cases unbound
    exact ⟨m, done, rfl⟩
  · cases unbound

theorem lookUp_eq_heldIn (s : Session) (name : String) : s.lookUp name = heldIn s.current.layers (.text name) :=
  s.current.get?_eq_heldIn _

/-- Binding a name binds it, and changes no other. -/
theorem lookUp_bind (bound : s.bind name v = .ok t) (key : String) :
    t.lookUp key = if name = key then some v else s.lookUp key := by
  obtain ⟨m, done, rfl⟩ := exists_of_bind bound
  obtain ⟨inner, outer, before, after⟩ := Mapping.layers_mapOwn? done
  have held : (Table.ofEntries (inner.list.set (.text name) v)).get? (.text key) =
      if name = key then some v else inner.get? (.text key) := by
    rw [Table.get?, Table.list_ofEntries (Bindings.nodup_set inner.nodup_list _ _), Bindings.get?_set]
    simp only [Key.text.injEq]
    rfl
  rw [lookUp_eq_heldIn, lookUp_eq_heldIn, before, after, heldIn, heldIn, List.findSome?_cons,
    List.findSome?_cons, held]
  by_cases same : name = key
  · rw [if_pos same, if_pos same]
  · rw [if_neg same, if_neg same]

/-- Unbinding a name changes no other. -/
theorem lookUp_unbind (unbound : s.unbind name = .ok t) (other : key ≠ name) : t.lookUp key = s.lookUp key := by
  obtain ⟨m, done, rfl⟩ := exists_of_unbind unbound
  obtain ⟨inner, outer, before, after⟩ := Mapping.layers_mapOwn? done
  have held : (Table.ofEntries (inner.list.erase (.text name))).get? (.text key) = inner.get? (.text key) := by
    rw [Table.get?, Table.list_ofEntries (Bindings.nodup_erase inner.nodup_list _),
      Bindings.get?_erase _ (mt Key.text.inj other)]
    rfl
  rw [lookUp_eq_heldIn, lookUp_eq_heldIn, before, after, heldIn, heldIn, List.findSome?_cons,
    List.findSome?_cons, held]

/-- What a call leaves: the session as it was, or with its result bound to the name that it is saved under. -/
theorem call_cases (clock : Moment) (s : Session) (name : String) (args : Except Failure (List Value))
    (save : Option String) :
    (s.call clock name args save).2 = s ∨
      ∃ key v, save = some key ∧ s.bind key v = .ok (s.call clock name args save).2 ∧
        (s.call clock name args save).1 = .result v := by
  rw [call]
  split
  · exact .inl rfl
  split
  · split
    · exact .inl rfl
    · exact .inl rfl
    · rename_i key found
      split
      · rename_i bound
        exact .inr ⟨key, _, rfl, bound, rfl⟩
      · exact .inl rfl
  · exact .inl rfl

/-- **A step that fails leaves the session as it is.** -/
theorem step_of_failed {st : Step} {f : Failure} (failed : (s.step clock st).1 = .failed f) :
    (s.step clock st).2 = s := by
  cases st with
  | call name args save =>
      rcases s.call_cases clock name args save with same | ⟨key, v, -, -, answered⟩
      · exact same
      · exact nomatch answered.symm.trans failed
  | get name => rfl
  | set name v =>
      rw [step] at failed ⊢
      cases result : s.bind name v with
      | error g => rfl
      | ok t =>
          rw [result] at failed
          cases failed
  | unset name =>
      rw [step] at failed ⊢
      cases result : s.unbind name with
      | error g => rfl
      | ok t =>
          rw [result] at failed
          cases failed
  | child context => cases failed
  | parent => cases failed
  | rebuild => cases failed
  | merge context => cases failed

/-! ## Steps in one context -/

/-- The step stays in the current context. -/
inductive Step.Stays : Step → Prop
  | call (name : String) (args : Except Failure (List Value)) (save : Option String) :
      Stays (.call name args save)
  | get (name : String) : Stays (.get name)
  | set (name : String) (v : Value) : Stays (.set name v)
  | unset (name : String) : Stays (.unset name)

/-- The names that a step binds or unbinds. -/
def Step.touched : Step → Option String
  | .call _ _ save => save
  | .set name _ => some name
  | .unset name => some name
  | _ => none

/-- What a step that stays leaves: the session as it was, or with one name bound or unbound. -/
theorem Step.Stays.step_cases {st : Step} (stays : st.Stays) (clock : Moment) (s : Session) :
    (s.step clock st).2 = s ∨
      ∃ name, st.touched = some name ∧
        ((∃ v, s.bind name v = .ok (s.step clock st).2) ∨ s.unbind name = .ok (s.step clock st).2) := by
  cases stays with
  | call name args save =>
      rcases s.call_cases clock name args save with same | ⟨key, v, saved, bound, -⟩
      · exact .inl same
      · exact .inr ⟨key, saved, .inl ⟨v, bound⟩⟩
  | get name => exact .inl rfl
  | set name v =>
      rw [step]
      cases result : s.bind name v with
      | error f => exact .inl rfl
      | ok t => exact .inr ⟨name, rfl, .inl ⟨v, result⟩⟩
  | unset name =>
      rw [step]
      cases result : s.unbind name with
      | error f => exact .inl rfl
      | ok t => exact .inr ⟨name, rfl, .inr result⟩

/-- A name that a step does not touch keeps what it is bound to. -/
theorem lookUp_step {st : Step} (stays : st.Stays) (spares : st.touched ≠ some name) :
    (s.step clock st).2.lookUp name = s.lookUp name := by
  rcases stays.step_cases clock s with same | ⟨key, touched, ⟨v, bound⟩ | unbound⟩
  · rw [same]
  · rw [lookUp_bind bound, if_neg]
    rintro rfl
    exact spares touched
  · apply lookUp_unbind unbound
    rintro rfl
    exact spares touched

/-- **A name that no step touches keeps what it is bound to.** -/
theorem lookUp_run_of_spares {steps : List Step} (stay : ∀ st ∈ steps, st.Stays)
    (spare : ∀ st ∈ steps, st.touched ≠ some name) : (s.run clock steps).lookUp name = s.lookUp name := by
  induction steps generalizing s with
  | nil => rfl
  | cons st steps ih =>
      obtain ⟨stays, others⟩ := List.forall_mem_cons.1 stay
      obtain ⟨spares, more⟩ := List.forall_mem_cons.1 spare
      show ((s.step clock st).2.run clock steps).lookUp name = _
      rw [ih others more, lookUp_step stays spares]

/-- A function of the catalog that a context does not shadow is there as long as no step touches its name. -/
theorem lookUp_run_start {context : Value} {b : Builtin} (unshadowed : context.ownMapping.get? (.text b.name) = none)
    {steps : List Step} (stay : ∀ st ∈ steps, st.Stays) (spare : ∀ st ∈ steps, st.touched ≠ some b.name) :
    ((start context).run clock steps).lookUp b.name = some (.function (.builtin b)) := by
  have found : context.merged.get? (.text b.name) = some (.function (.builtin b)) := by
    rw [Value.get?_merged, unshadowed, b.ofName?_name]
    rfl
  rw [lookUp_run_of_spares stay spare]
  exact found

/-! ## Child contexts -/

/-- Every child context that is entered in the steps is left again, and nothing else is. -/
inductive Balanced : List Step → Prop
  | nil : Balanced []
  | step {st : Step} {rest : List Step} (stays : st.Stays) (more : Balanced rest) : Balanced (st :: rest)
  | child (context : Value) {inside rest : List Step} (balanced : Balanced inside) (more : Balanced rest) :
      Balanced (.child context :: (inside ++ .parent :: rest))

theorem run_append (s : Session) (first second : List Step) :
    s.run clock (first ++ second) = (s.run clock first).run clock second := List.foldl_append

theorem step_chain {st : Step} (stays : st.Stays) (clock : Moment) (own : Mapping) (parents : List Mapping) :
    ∃ inside, (step clock ⟨.chain own parents⟩ st).2 = ⟨.chain inside parents⟩ := by
  rcases stays.step_cases clock ⟨.chain own parents⟩ with same | ⟨key, -, ⟨v, bound⟩ | unbound⟩
  · exact ⟨own, same⟩
  · obtain ⟨m, done, changed⟩ := exists_of_bind bound
    obtain ⟨inside, rfl⟩ := Mapping.exists_chain_of_mapOwn? done
    exact ⟨inside, changed⟩
  · obtain ⟨m, done, changed⟩ := exists_of_unbind unbound
    obtain ⟨inside, rfl⟩ := Mapping.exists_chain_of_mapOwn? done
    exact ⟨inside, changed⟩

/-- Balanced steps leave what a chain inherits from. -/
theorem run_balanced {steps : List Step} (balanced : Balanced steps) (clock : Moment) (own : Mapping)
    (parents : List Mapping) :
    ∃ inside, run clock ⟨.chain own parents⟩ steps = ⟨.chain inside parents⟩ := by
  induction balanced generalizing own parents with
  | nil => exact ⟨own, rfl⟩
  | @step st rest stays more ih =>
      obtain ⟨changed, same⟩ := step_chain stays clock own parents
      obtain ⟨inside, left⟩ := ih changed parents
      refine ⟨inside, ?_⟩
      rw [run, List.foldl_cons, same]
      exact left
  | @child context inside rest balanced more here behind =>
      obtain ⟨changed, same⟩ := here (Mapping.ofValue context) [.chain own parents]
      obtain ⟨left, there⟩ := behind own parents
      refine ⟨left, ?_⟩
      show run clock ⟨.chain (Mapping.ofValue context) [.chain own parents]⟩ (inside ++ .parent :: rest) = _
      rw [run_append, same]
      exact there

/-- **What happens in a child context does not reach the context behind it**: when the child is left, the
session is where it was. -/
theorem run_child (s : Session) (context : Value) {inside : List Step} (balanced : Balanced inside) :
    s.run clock (.child context :: (inside ++ [.parent])) = s := by
  obtain ⟨left, same⟩ := run_balanced balanced clock (Mapping.ofValue context) [s.current]
  show run clock ⟨.chain (Mapping.ofValue context) [s.current]⟩ (inside ++ [.parent]) = s
  rw [run_append, same]
  rfl

end Session

end TemplateBuiltins
