/-
# Proofs.Catalog.Flattening -- joining flattens arrays in arrays

An item that is an array stands in the joined text as its own items joined with commas.  With a
comma between the items of the outer array as well, nothing shows where the inner one begins and
ends: texts that are joined to the same text can stand in each other's place
(`Text.JoinedAlike.append`), one text for several, though not for none.

Taken all the way down, an array of arrays is joined as the sequence of its leaves, which are the
items that are no arrays, and the empty arrays, which keep their place
(`joinedAlike_leavesOfItems`).  Any other separator stands between the items of the outer array
only (`join_flattens`).
-/
import TemplateBuiltins.Proofs.Catalog.SplitJoin

set_option autoImplicit false

namespace TemplateBuiltins

/-! ## Texts in the place of texts -/

namespace Text

/-- Texts that are joined to one text, and of which there are some or none on both sides. -/
structure JoinedAlike (d : List Char) (a b : List (List Char)) : Prop where
  same : glue d a = glue d b
  empty : a = [] ↔ b = []

namespace JoinedAlike

variable {d : List Char} {a b x y : List (List Char)}

theorem refl (d : List Char) (a : List (List Char)) : JoinedAlike d a a := ⟨rfl, Iff.rfl⟩

/-- Texts in front of others can be replaced, and so can those behind them. -/
theorem append (front : JoinedAlike d a b) (back : JoinedAlike d x y) : JoinedAlike d (a ++ x) (b ++ y) where
  same := by
    by_cases noFront : a = []
    · rw [noFront, front.empty.1 noFront]
      exact back.same
    · have front' : b ≠ [] := mt front.empty.2 noFront
      by_cases noBack : x = []
      · rw [noBack, back.empty.1 noBack, List.append_nil, List.append_nil]
        exact front.same
      · have back' : y ≠ [] := mt back.empty.2 noBack
        rw [glue_append d noFront noBack, glue_append d front' back', front.same, back.same]
  empty := by rw [List.append_eq_nil_iff, List.append_eq_nil_iff, front.empty, back.empty]

/-- Some texts can be replaced by the one that they are joined to. -/
theorem single (d : List Char) (some : a ≠ []) : JoinedAlike d a [glue d a] where
  same := rfl
  empty := by simp [some]

end JoinedAlike

end Text

/-! ## Items in the place of items -/

theorem itemTexts_append (xs ys : List Value) :
    itemTexts (xs ++ ys) = itemTexts xs >>= fun front => (itemTexts ys).map (front ++ ·) := by
  induction xs with
  | nil => rw [List.nil_append, itemTexts]; cases itemTexts ys <;> rfl
  | cons v xs ih =>
      rw [List.cons_append, itemTexts, itemTexts, ih]
      cases v.itemText with
      | error f => rfl
      | ok text => cases itemTexts xs <;> cases itemTexts ys <;> rfl

theorem itemTexts_eq_nil_iff {items : List Value} {texts : List (List Char)} (made : itemTexts items = .ok texts) :
    texts = [] ↔ items = [] := by
  cases items with
  | nil =>
      cases made
      simp
  | cons v rest =>
      rw [itemTexts] at made
      cases first : v.itemText with
      | error f =>
          rw [first] at made
          cases made
      | ok text =>
          rw [first] at made
          cases others : itemTexts rest <;> rw [others] at made <;> cases made
          simp

/-- Texts that are joined alike, or one failure to make them. -/
inductive TextsAlike (d : List Char) : Except Failure (List (List Char)) → Except Failure (List (List Char)) → Prop
  | made {a b : List (List Char)} (alike : Text.JoinedAlike d a b) : TextsAlike d (.ok a) (.ok b)
  | failed (f : Failure) : TextsAlike d (.error f) (.error f)

/-- Items that are joined alike, or fail alike. -/
def ItemsAlike (d : List Char) (xs ys : List Value) : Prop := TextsAlike d (itemTexts xs) (itemTexts ys)

namespace ItemsAlike

variable {d : List Char} {xs ys zs ws : List Value}

theorem refl (d : List Char) (xs : List Value) : ItemsAlike d xs xs := by
  unfold ItemsAlike
  cases itemTexts xs with
  | error f => exact .failed f
  | ok texts => exact .made (.refl d texts)

theorem append (front : ItemsAlike d xs ys) (back : ItemsAlike d zs ws) :
    ItemsAlike d (xs ++ zs) (ys ++ ws) := by
  unfold ItemsAlike at front back ⊢
  rw [itemTexts_append, itemTexts_append]
  generalize itemTexts xs = a, itemTexts ys = b, itemTexts zs = c, itemTexts ws = e at front back ⊢
  cases front with
  | failed f => exact .failed f
  | made first =>
      cases back with
      | failed f => exact .failed f
      | made second => exact .made (first.append second)

theorem map_glue (alike : ItemsAlike d xs ys) :
    (itemTexts xs).map (Text.glue d) = (itemTexts ys).map (Text.glue d) := by
  unfold ItemsAlike at alike
  generalize itemTexts xs = first at alike ⊢
  generalize itemTexts ys = second at alike ⊢
  cases alike with
  | failed f => rfl
  | made alike => exact congrArg Except.ok alike.same

/-- Some items can be replaced by one that has their joined text. -/
theorem single {v : Value} (some : xs ≠ []) (joined : v.itemText = (itemTexts xs).map (Text.glue d)) :
    ItemsAlike d xs [v] := by
  have one : itemTexts [v] = (itemTexts xs).map fun texts => [Text.glue d texts] := by
    rw [itemTexts, joined]
    cases itemTexts xs <;> rfl
  unfold ItemsAlike
  rw [one]
  cases texts : itemTexts xs with
  | error f => exact .failed f
  | ok made => exact .made (.single d (mt (itemTexts_eq_nil_iff texts).1 some))

end ItemsAlike

/-- An array that is an item has its items joined with commas. -/
theorem Value.Lists.itemText_eq {v : Value} {items : List Value} (lists : v.Lists items) :
    v.itemText = (itemTexts items).map (Text.glue [',']) := by
  cases lists with
  | array => rw [itemText]
  | tuple => rw [itemText]
  | signature s =>
      have texts : itemTexts s.items = .ok s.pairText := by
        simp [Signature.items, Signature.pairText, itemTexts, itemText, shown, text, plain, ofText]
        rfl
      rw [itemText, texts]
      rfl

/-! ## Leaves -/

mutual

/-- The leaves of a value from left to right: of an array those of its items, if it has any. -/
def Value.leaves : Value → List Value
  | .array (v :: rest) => v.leaves ++ leavesOfItems rest
  | .tuple (v :: rest) => v.leaves ++ leavesOfItems rest
  | .signature s => s.items
  | v => [v]

def leavesOfItems : List Value → List Value
  | [] => []
  | v :: rest => v.leaves ++ leavesOfItems rest

end

theorem Value.leaves_ne_nil (v : Value) : v.leaves ≠ [] := by
  cases v with
  | array items | tuple items =>
      cases items with
      | nil => simp [Value.leaves]
      | cons v rest =>
          rw [Value.leaves]
          exact List.append_ne_nil_of_left_ne_nil v.leaves_ne_nil _
  | signature s => simp [Value.leaves, Signature.items]
  | _ => simp [Value.leaves]

/-- No array, or one without items. -/
def Value.IsLeaf (v : Value) : Prop := ∀ items, v.Lists items → items = []

theorem Value.IsLeaf.leaves_eq {v : Value} (leaf : v.IsLeaf) : v.leaves = [v] := by
  cases v with
  | array items =>
      cases leaf items (.array items)
      rfl
  | tuple items =>
      cases leaf items (.tuple items)
      rfl
  | signature s => exact absurd (leaf _ (.signature s)) (by simp [Signature.items])
  | _ => rfl

mutual

theorem Value.isLeaf_of_mem_leaves (v : Value) : ∀ leaf ∈ v.leaves, leaf.IsLeaf := by
  cases v with
  | array items | tuple items =>
      cases items with
      | nil =>
          intro leaf inside
          obtain rfl := List.mem_singleton.1 inside
          rintro items ⟨⟩
          rfl
      | cons v rest =>
          rw [Value.leaves, List.forall_mem_append]
          exact ⟨v.isLeaf_of_mem_leaves, isLeaf_of_mem_leavesOfItems rest⟩
  | signature s =>
      rw [Value.leaves, Signature.items, List.forall_mem_cons, List.forall_mem_singleton]
      exact ⟨nofun, nofun⟩
  | _ =>
      intro leaf inside
      obtain rfl := List.mem_singleton.1 inside
      nofun

theorem isLeaf_of_mem_leavesOfItems (items : List Value) : ∀ leaf ∈ leavesOfItems items, leaf.IsLeaf := by
  cases items with
  | nil => simp [leavesOfItems]
  | cons v rest =>
      rw [leavesOfItems, List.forall_mem_append]
      exact ⟨v.isLeaf_of_mem_leaves, isLeaf_of_mem_leavesOfItems rest⟩

end

mutual

/-- The leaves of an item are joined to the text of the item. -/
theorem Value.itemsAlike_leaves (v : Value) : ItemsAlike [','] v.leaves [v] := by
  cases v with
  | array items | tuple items =>
      cases items with
      | nil => exact .refl _ _
      | cons v rest =>
          have alike := itemsAlike_leavesOfItems (v :: rest)
          rw [leavesOfItems] at alike
          rw [Value.leaves]
          refine .single (List.append_ne_nil_of_left_ne_nil v.leaves_ne_nil _) ?_
          rw [Value.itemText, alike.map_glue]
  | signature s =>
      rw [Value.leaves]
      exact .single (by simp [Signature.items]) (Value.Lists.signature s).itemText_eq
  | _ => exact .refl _ _

theorem itemsAlike_leavesOfItems (items : List Value) : ItemsAlike [','] (leavesOfItems items) items := by
  cases items with
  | nil => exact .refl _ _
  | cons v rest =>
      rw [leavesOfItems, ← List.singleton_append]
      exact v.itemsAlike_leaves.append (itemsAlike_leavesOfItems rest)

end

mutual

/-- A value can be shown if its leaves can. -/
theorem Value.allShowable_leaves (v : Value) : allShowable v.leaves = v.isShowable := by
  cases v with
  | array items | tuple items =>
      cases items with
      | nil => rfl
      | cons v rest => rw [Value.leaves, ← leavesOfItems, allShowable_leavesOfItems, Value.isShowable]
  | signature s => rfl
  | _ => exact Bool.and_true _

theorem allShowable_leavesOfItems (items : List Value) : allShowable (leavesOfItems items) = allShowable items := by
  cases items with
  | nil => rfl
  | cons v rest =>
      rw [leavesOfItems, allShowable_append, v.allShowable_leaves, allShowable_leavesOfItems rest, allShowable]

end

/-- Null, and an array without items, is a leaf with an empty text. -/
theorem Value.leaf_of_empty {v : Value} (empty : v = .null ∨ v.Lists []) :
    v.IsLeaf ∧ v.itemText = .ok [] ∧ v.isShowable = true := by
  rcases empty with rfl | lists
  · exact ⟨nofun, rfl, rfl⟩
  · refine ⟨fun items other => ?_, lists.itemText_eq, lists.isShowable⟩
    cases lists <;> cases other <;> rfl

/-! ## Joined arrays -/

theorem text_comma : (Value.string ",").text = [','] := rfl

namespace Builtin

variable {clock : Moment} {context v w separator : Value} {items others : List Value}

/-- An array that can be shown is joined to the texts of its items. -/
theorem call_join_pair (lists : v.Lists items) (textual : separator.IsTextual) :
    join.call clock context [v, separator] =
      if v.isShowable && separator.isShowable then Catalog.joinTexts separator items else .error (.tooLong none) := by
  by_cases shown : Shown [v, separator]
  · have both : (v.isShowable && separator.isShowable) = true := by simpa [Shown] using shown
    rw [call_join lists textual shown, if_pos both]
  · have not : ¬ (v.isShowable && separator.isShowable) = true := by simpa [Shown] using shown
    rw [call, Definition.call_of_hidden shown, if_neg not]

/-- Arrays of which both can be shown or none, and whose items are joined alike, are joined alike. -/
theorem call_join_congr (first : v.Lists items) (second : w.Lists others) (textual : separator.IsTextual)
    (showable : allShowable items = allShowable others)
    (same : (itemTexts items).map (Text.glue separator.text) = (itemTexts others).map (Text.glue separator.text)) :
    join.call clock context [v, separator] = join.call clock context [w, separator] := by
  have joined : Catalog.joinTexts separator items = Catalog.joinTexts separator others := by
    have split (xs : List Value) : Catalog.joinTexts separator xs =
        ((itemTexts xs).map (Text.glue separator.text)).map .ofText := by
      rw [Catalog.joinTexts]
      cases itemTexts xs <;> rfl
    rw [split, split, same]
  rw [call_join_pair first textual, call_join_pair second textual, first.isShowable, second.isShowable, showable,
    joined]

end Builtin

/-- An array that is an item and the text that it is joined to stand for the same. -/
theorem Value.Lists.itemTexts_joined {a : Value} {items : List Value} (lists : a.Lists items) {text : List Char}
    (joined : (itemTexts items).map (Text.glue [',']) = .ok text) (xs ys : List Value) :
    itemTexts (xs ++ a :: ys) = itemTexts (xs ++ .ofText text :: ys) := by
  have same : (ofText text).itemText = a.itemText :=
    (congrArg Except.ok (text_ofText _)).trans (joined.symm.trans lists.itemText_eq.symm)
  rw [itemTexts_append, itemTexts_append, itemTexts, itemTexts, same]

theorem itemTexts_append_eq_ok_iff (xs ys : List Value) (texts : List (List Char)) :
    itemTexts (xs ++ ys) = .ok texts ↔
      ∃ front back, itemTexts xs = .ok front ∧ itemTexts ys = .ok back ∧ texts = front ++ back := by
  rw [itemTexts_append]
  cases itemTexts xs with
  | error f => simp [bind, Except.bind]
  | ok front =>
      cases itemTexts ys with
      | error f => simp [bind, Except.bind, Except.map]
      | ok back => simp [bind, Except.bind, Except.map, eq_comm]

theorem Value.ofText_inj {s t : List Char} (same : ofText s = ofText t) : s = t := by
  rw [← text_ofText s, same, text_ofText]

namespace Builtin

variable {clock : Moment} {context v separator : Value} {items : List Value}

/-- An array is joined where it can be shown and its items have texts. -/
theorem call_join_eq_ok_iff (lists : v.Lists items) (textual : separator.IsTextual) (joined : Value) :
    join.call clock context [v, separator] = .ok joined ↔
      Shown [v, separator] ∧ ∃ texts, itemTexts items = .ok texts ∧
        joined = .ofText (Text.glue separator.text texts) := by
  by_cases shown : Shown [v, separator]
  · rw [call_join lists textual shown, Catalog.joinTexts]
    cases itemTexts items with
    | error f => simp [Except.map]
    | ok texts => simp [Except.map, shown, eq_comm]
  · rw [call, Definition.call_of_hidden shown]
    simp [shown]

/-- Its items have texts where all keys in them have names. -/
theorem exists_itemTexts_iff (shown : allShowable items = true) :
    (∃ texts, itemTexts items = .ok texts) ↔ ∀ item ∈ items, item.refusedKey? = none := by
  rw [(itemTexts_settled items shown).exists_ok_iff, refusedKeyOfItems?_eq_none_iff]

theorem exists_call_join_iff (lists : v.Lists items) (textual : separator.IsTextual) :
    (∃ text, join.call clock context [v, separator] = .ok (.string text)) ↔
      Shown [v, separator] ∧ ∀ item ∈ items, item.refusedKey? = none := by
  constructor
  · rintro ⟨text, joined⟩
    obtain ⟨shown, texts, made, -⟩ := (call_join_eq_ok_iff lists textual _).1 joined
    have each : allShowable items = true := lists.isShowable ▸ shown v (by simp)
    exact ⟨shown, (exists_itemTexts_iff each).1 ⟨texts, made⟩⟩
  · rintro ⟨shown, named⟩
    have each : allShowable items = true := lists.isShowable ▸ shown v (by simp)
    obtain ⟨texts, made⟩ := (exists_itemTexts_iff each).2 named
    exact ⟨_, (call_join_eq_ok_iff lists textual _).2 ⟨shown, texts, made, rfl⟩⟩

section Nested

variable {outer a : Value} {xs ys : List Value}

/-- With commas the items of an array can stand in its place. -/
theorem call_join_spread {flat : Value} (lists : a.Lists items) (some : items ≠ [])
    (nested : outer.Lists (xs ++ a :: ys)) (spread : flat.Lists (xs ++ items ++ ys)) :
    join.call clock context [outer, .string ","] = join.call clock context [flat, .string ","] := by
  have inner : ItemsAlike [','] items [a] := .single some lists.itemText_eq
  have alike := ((ItemsAlike.refl [','] xs).append inner).append (.refl _ ys)
  rw [List.append_assoc xs [a] ys, List.singleton_append] at alike
  have showable : allShowable (xs ++ a :: ys) = allShowable (xs ++ items ++ ys) := by
    simp only [allShowable_append, allShowable, lists.isShowable, Bool.and_assoc]
  exact call_join_congr nested spread (.text _) showable alike.map_glue.symm

/-- With any separator the text that an array is joined to can stand in its place. -/
theorem call_join_filled {filled : Value} {text : String} (lists : a.Lists items)
    (nested : outer.Lists (xs ++ a :: ys)) (textual : separator.IsTextual)
    (joined : join.call clock context [a, .string ","] = .ok (.string text))
    (single : filled.Lists (xs ++ .string text :: ys)) :
    join.call clock context [outer, separator] = join.call clock context [filled, separator] := by
  obtain ⟨shown, texts, made, same⟩ := (call_join_eq_ok_iff lists (.text _) _).1 joined
  have inner : (itemTexts items).map (Text.glue [',']) = .ok (Text.glue [','] texts) := by
    rw [made]
    rfl
  have front := lists.itemTexts_joined inner xs ys
  have here : a.isShowable = true := shown a (by simp)
  have there : (Value.ofText (Text.glue [','] texts)).isShowable = true := Value.isShowable_string _
  rw [same] at single
  refine call_join_congr nested single textual ?_ (congrArg _ front)
  simp only [allShowable_append, allShowable, here, text_comma, there]

/-- Where the outer array is joined, so is the one that is its item. -/
theorem exists_call_join_item {joined : Value} (lists : a.Lists items)
    (nested : outer.Lists (xs ++ a :: ys)) (textual : separator.IsTextual)
    (result : join.call clock context [outer, separator] = .ok joined) :
    ∃ text, join.call clock context [a, .string ","] = .ok text := by
  obtain ⟨shown, texts, made, -⟩ := (call_join_eq_ok_iff nested textual _).1 result
  obtain ⟨-, back, -, rest, -⟩ := (itemTexts_append_eq_ok_iff _ _ _).1 made
  rw [itemTexts, lists.itemText_eq] at rest
  cases inner : itemTexts items with
  | error g =>
      rw [inner] at rest
      cases rest
  | ok front =>
      have whole := shown outer (by simp)
      rw [nested.isShowable, allShowable_append, allShowable, Bool.and_eq_true, Bool.and_eq_true] at whole
      have both : Shown [a, .string ","] := by simp [Shown, whole.2.1, Value.isShowable]
      exact ⟨_, (call_join_eq_ok_iff lists (.text _) _).2 ⟨both, front, inner, rfl⟩⟩

end Nested

/-- The texts of two arrays, with the separator between them, are that of the one behind the other. -/
theorem call_join_append_iff {first second both : Value} {xs ys : List Value} (front : first.Lists xs)
    (someFront : xs ≠ []) (back : second.Lists ys) (someBack : ys ≠ []) (whole : both.Lists (xs ++ ys))
    (textual : separator.IsTextual) (joined : Value) :
    join.call clock context [both, separator] = .ok joined ↔
      ∃ s t, join.call clock context [first, separator] = .ok (.ofText s) ∧
        join.call clock context [second, separator] = .ok (.ofText t) ∧
        joined = .ofText (s ++ separator.text ++ t) := by
  have showable : Shown [both, separator] ↔ Shown [first, separator] ∧ Shown [second, separator] := by
    simp only [Shown, List.forall_mem_cons, whole.isShowable, front.isShowable, back.isShowable,
      allShowable_append, Bool.and_eq_true]
    tauto
  have glued {a b : List (List Char)} (made : itemTexts xs = .ok a) (made' : itemTexts ys = .ok b) :
      Text.glue separator.text (a ++ b) =
        Text.glue separator.text a ++ separator.text ++ Text.glue separator.text b :=
    Text.glue_append _ (mt (itemTexts_eq_nil_iff made).1 someFront) (mt (itemTexts_eq_nil_iff made').1 someBack)
  rw [call_join_eq_ok_iff whole textual, showable]
  constructor
  · rintro ⟨⟨shown, shown'⟩, texts, all, rfl⟩
    obtain ⟨a, b, made, made', rfl⟩ := (itemTexts_append_eq_ok_iff _ _ _).1 all
    refine ⟨_, _, (call_join_eq_ok_iff front textual _).2 ⟨shown, a, made, rfl⟩,
      (call_join_eq_ok_iff back textual _).2 ⟨shown', b, made', rfl⟩, ?_⟩
    rw [glued made made']
  · rintro ⟨s, t, joined, joined', rfl⟩
    obtain ⟨shown, a, made, same⟩ := (call_join_eq_ok_iff front textual _).1 joined
    obtain ⟨shown', b, made', same'⟩ := (call_join_eq_ok_iff back textual _).1 joined'
    refine ⟨⟨shown, shown'⟩, a ++ b, (itemTexts_append_eq_ok_iff _ _ _).2 ⟨a, b, made, made', rfl⟩, ?_⟩
    rw [glued made made', Value.ofText_inj same, Value.ofText_inj same']

end Builtin

/-- **Joining flattens arrays in arrays.**  With commas an array that is an item can be replaced by its
items, and all arrays by their leaves, without a change to the outcome; with any separator it can be
replaced by the text that it is joined to with commas, and two arrays are joined by joining them one behind
the other.  There is a text where everything can be shown and every key has a name. -/
theorem join_flattens (clock : Moment) (context : Value) :
    (∀ (outer flat a : Value) (xs items ys : List Value), a.Lists items → items ≠ [] →
      outer.Lists (xs ++ a :: ys) → flat.Lists (xs ++ items ++ ys) →
      Builtin.join.call clock context [outer, .string ","] = Builtin.join.call clock context [flat, .string ","]) ∧
    (∀ (v : Value) (items : List Value), v.Lists items →
      Builtin.join.call clock context [v, .string ","] =
        Builtin.join.call clock context [.array (leavesOfItems items), .string ","] ∧
      ∀ leaf ∈ leavesOfItems items, leaf.IsLeaf) ∧
    (∀ v : Value, v = .null ∨ v.Lists [] → v.leaves = [v] ∧ ∀ separator : Value, separator.IsTextual →
      separator.isShowable = true → Builtin.join.call clock context [.array [v], separator] = .ok (.string "")) ∧
    (∀ (a outer separator : Value) (xs items ys : List Value), a.Lists items → outer.Lists (xs ++ a :: ys) →
      separator.IsTextual →
      (∀ (text : String) (filled : Value), Builtin.join.call clock context [a, .string ","] = .ok (.string text) →
        filled.Lists (xs ++ .string text :: ys) →
        Builtin.join.call clock context [outer, separator] = Builtin.join.call clock context [filled, separator]) ∧
      (∀ f, Builtin.join.call clock context [a, .string ","] = .error f →
        ∃ g, Builtin.join.call clock context [outer, separator] = .error g)) ∧
    (∀ (first second both separator : Value) (xs ys : List Value), first.Lists xs → xs ≠ [] →
      second.Lists ys → ys ≠ [] → both.Lists (xs ++ ys) → separator.IsTextual → ∀ joined,
      Builtin.join.call clock context [both, separator] = .ok joined ↔
        ∃ s t, Builtin.join.call clock context [first, separator] = .ok (.ofText s) ∧
          Builtin.join.call clock context [second, separator] = .ok (.ofText t) ∧
          joined = .ofText (s ++ separator.text ++ t)) ∧
    ∀ (v separator : Value) (items : List Value), v.Lists items → separator.IsTextual →
      ((∃ text, Builtin.join.call clock context [v, separator] = .ok (.string text)) ↔
        Shown [v, separator] ∧ ∀ item ∈ items, item.refusedKey? = none) := by
  have comma : (Value.string ",").IsTextual := .text _
  refine ⟨?_, ?_, ?_, ?_, ?_, ?_⟩
  · intro outer flat a xs items ys lists some nested spread
    exact Builtin.call_join_spread lists some nested spread
  · intro v items lists
    refine ⟨?_, isLeaf_of_mem_leavesOfItems items⟩
    exact Builtin.call_join_congr lists (.array _) comma (allShowable_leavesOfItems items).symm
      (itemsAlike_leavesOfItems items).map_glue.symm
  · intro v empty
    obtain ⟨leaf, none, showable⟩ := Value.leaf_of_empty empty
    refine ⟨leaf.leaves_eq, fun separator textual shown => ?_⟩
    have both : Shown [.array [v], separator] := by simp [Shown, Value.isShowable, allShowable, showable, shown]
    refine (Builtin.call_join_eq_ok_iff (.array [v]) textual _).2 ⟨both, [[]], ?_, rfl⟩
    rw [itemTexts, none]
    rfl
  · intro a outer separator xs items ys lists nested textual
    constructor
    · intro text filled joined single
      exact Builtin.call_join_filled lists nested textual joined single
    · intro f failed
      cases result : Builtin.join.call clock context [outer, separator] with
      | error g => exact ⟨g, rfl⟩
      | ok joined =>
          obtain ⟨text, answered⟩ := Builtin.exists_call_join_item lists nested textual result
          rw [failed] at answered
          cases answered
  · intro first second both separator xs ys front someFront back someBack whole textual joined
    exact Builtin.call_join_append_iff front someFront back someBack whole textual joined
  · intro v separator items lists textual
    exact Builtin.exists_call_join_iff lists textual

/-- An array in a pair in an array, joined with commas and with a number; the leaves of that nest; an array
without items; two arrays joined one behind the other; and a mapping whose key has no name. -/
theorem join_flattens_pair :
    Builtin.join.call .midnight .null [.array [.int 1, .tuple [.null, .array [.int 2]]], .string ","] =
      Builtin.join.call .midnight .null [.array [.int 1, .null, .array [.int 2]], .string ","] ∧
    Builtin.join.call .midnight .null [.array [.int 1, .tuple [.null, .array [.int 2]]], .string ","] =
      Builtin.join.call .midnight .null [.array [.int 1, .null, .int 2], .string ","] ∧
    Builtin.join.call .midnight .null [.array [.array []], .string "-"] = .ok (.string "") ∧
    Builtin.join.call .midnight .null [.array [.int 1, .tuple [.null, .array []]], .int 0] =
      Builtin.join.call .midnight .null [.array [.int 1, .string ","], .int 0] ∧
    Builtin.join.call .midnight .null [.array [.string "a", .null], .string "-"] = .ok (.string "a-") ∧
    ¬ ∃ text, Builtin.join.call .midnight .null
      [.array [.ofFields (.ofEntries [(.other ⟨"tuple", some "(1, 2)", none⟩, .null)])], .string ","] =
        .ok (.string text) := by
  obtain ⟨spread, leaves, empty, filled, behind, answered⟩ := join_flattens .midnight .null
  have made (separator : String) {v : Value} {items : List Value} {texts : List (List Char)} (lists : v.Lists items)
      (shown : v.isShowable = true) (all : itemTexts items = .ok texts) :
      Builtin.join.call .midnight .null [v, .string separator] =
        .ok (.ofText (Text.glue separator.toList texts)) :=
    (Builtin.call_join_eq_ok_iff lists (.text separator) _).2
      ⟨by simp [Shown, shown, Value.isShowable], _, all, rfl⟩
  have pair : itemTexts [.null, .array []] = .ok [[], []] := rfl
  refine ⟨spread _ _ _ [.int 1] _ [] (.tuple _) (by simp) (.array _) (.array _),
    (leaves _ _ (.array [.int 1, .tuple [.null, .array [.int 2]]])).1,
    (empty (.array []) (.inr (.array _))).2 _ (.text _) rfl, ?_, ?_, ?_⟩
  · have inner := filled (.tuple [.null, .array []]) _ (.int 0) [.int 1] _ [] (.tuple _) (.array _) (.number _)
    have joined := made "," (.tuple [.null, .array []]) rfl pair
    exact inner.1 "," _ joined (.array _)
  · exact (behind (.array [.string "a"]) (.array [.null]) _ _ _ _ (.array _) (by simp) (.array _) (by simp)
      (.array _) (.text "-") _).2 ⟨_, _, made "-" (.array _) rfl rfl, made "-" (.array _) rfl rfl, rfl⟩
  · intro made
    have named := ((answered _ _ _ (.array _) (.text _)).1 made).2 _ (List.mem_singleton_self _)
    cases named

end TemplateBuiltins
