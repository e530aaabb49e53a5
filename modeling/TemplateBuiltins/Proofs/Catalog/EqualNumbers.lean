/-
# Proofs.Catalog.EqualNumbers -- equal numbers in each other's place

Wherever a number is written, an equal number can stand in its place, since it has the same text.
`Value.SamePlaces` relates values that differ in such numbers only, be it in arrays of any depth.
They are of the same kinds, so that a check lets both through or reports both in the same words
(`Value.SamePlaces.sameKind`), both can be shown or neither, since an integer that is equal to a double is
not too long (`Number.SamePlace.isShowable_eq`), and they have one text as items
(`Value.SamePlaces.itemText_eq`).
So `str`, `split` and `join` answer both alike (`Builtin.call_samePlaces`).  In mappings, which are
written as JSON, equal numbers can be told apart, and so they are left out.
-/
import TemplateBuiltins.Proofs.Catalog.Results
import TemplateBuiltins.Proofs.Number.Equality
import TemplateBuiltins.Proofs.Number.Interval

set_option autoImplicit false

namespace TemplateBuiltins

/-- The values are the same but for equal numbers, at most in arrays. -/
inductive Value.SamePlaces : Value → Value → Prop
  | same (v : Value) : SamePlaces v v
  | number {a b : Number} (equal : a.SamePlace b) : SamePlaces (.number a) (.number b)
  | array {xs ys : List Value} (items : List.Forall₂ Value.SamePlaces xs ys) : SamePlaces (.array xs) (.array ys)
  | tuple {xs ys : List Value} (items : List.Forall₂ Value.SamePlaces xs ys) : SamePlaces (.tuple xs) (.tuple ys)

/-- A double is shown, and so is an integer that is equal to one. -/
theorem Number.SamePlace.isShowable_eq {a b : Number} (equal : a.SamePlace b) : a.isShowable = b.isShowable := by
  have written {n : Int} {x : Double} (equal : (Number.int n).SamePlace (.double x)) : Text.isWritable n = true := by
    obtain ⟨p, first, second⟩ := equal
    cases first
    have units := place?_double_eq_units.1 second
    have value : x.value? = some (n : ℚ) := by
      rw [Double.value?, units, Option.map_some, Int.cast_mul, Int.cast_natCast,
        mul_div_cancel_right₀ _ Double.unitsPerOne_cast_pos.ne']
    exact Double.isWritable_of_value? value (by linarith)
  cases a with
  | int n =>
      cases b with
      | int m =>
          obtain ⟨p, first, second⟩ := equal
          cases first
          have same := Place.units.inj (Option.some.inj second)
          have positive : (Double.unitsPerOne : Int) ≠ 0 := Int.ne_of_gt (Int.natCast_pos.2 Double.unitsPerOne_pos)
          rw [Int.eq_of_mul_eq_mul_right positive same]
      | double x => exact written equal
  | double x =>
      cases b with
      | int m => exact (written equal.symm).symm
      | double y => rfl

mutual

theorem Value.SamePlaces.isShowable_eq {v w : Value} (alike : v.SamePlaces w) : v.isShowable = w.isShowable := by
  cases alike with
  | same => rfl
  | number equal => exact equal.isShowable_eq
  | array items | tuple items => rw [Value.isShowable, Value.isShowable, allShowable_eq_of_samePlaces items]

theorem allShowable_eq_of_samePlaces {xs ys : List Value} (alike : List.Forall₂ Value.SamePlaces xs ys) :
    allShowable xs = allShowable ys := by
  cases alike with
  | nil => rfl
  | cons first rest => rw [allShowable, allShowable, first.isShowable_eq, allShowable_eq_of_samePlaces rest]

end

mutual

theorem Value.SamePlaces.itemText_eq {v w : Value} (alike : v.SamePlaces w) : v.itemText = w.itemText := by
  cases alike with
  | same => rfl
  | number equal => exact congrArg Except.ok (Number.text_eq_of_samePlace equal)
  | array items | tuple items => rw [Value.itemText, Value.itemText, itemTexts_eq_of_samePlaces items]

theorem itemTexts_eq_of_samePlaces {xs ys : List Value} (alike : List.Forall₂ Value.SamePlaces xs ys) :
    itemTexts xs = itemTexts ys := by
  cases alike with
  | nil => rfl
  | cons first rest => rw [itemTexts, itemTexts, first.itemText_eq, itemTexts_eq_of_samePlaces rest]

end

namespace Value.SamePlaces

variable {v w : Value} (alike : v.SamePlaces w)

include alike

theorem sameKind : Definition.SameKind v w := by
  have shown := alike.isShowable_eq
  cases alike with
  | same => exact ⟨rfl, rfl, rfl⟩
  | number | array | tuple => exact ⟨funext fun k => by cases k <;> rfl, rfl, shown⟩

/-- Values that are no arrays have one text by themselves, too. -/
theorem text_eq (noArray : v.isArray = false) : v.text = w.text := by
  cases alike with
  | same => rfl
  | number equal => exact Number.text_eq_of_samePlace equal
  | array | tuple => cases noArray

/-- As arrays they have items with the same texts, or are both no arrays. -/
theorem items?_eq : (Catalog.items? v).map itemTexts = (Catalog.items? w).map itemTexts := by
  cases alike with
  | same | number => rfl
  | array items | tuple items => exact congrArg some (itemTexts_eq_of_samePlaces items)

theorem subject?_eq : Catalog.subject? v = Catalog.subject? w := by
  cases alike with
  | same | array | tuple => rfl
  | number equal => exact congrArg some (Number.text_eq_of_samePlace equal)

end Value.SamePlaces

namespace Catalog

variable {args others : List Value} (alike : List.Forall₂ Value.SamePlaces args others)

include alike

theorem split_samePlaces : split args = split others := by
  cases alike with
  | nil => rfl
  | cons first rest =>
      cases rest with
      | nil => rw [split, split, first.subject?_eq]
      | cons second => rw [split, split, first.subject?_eq, second.subject?_eq]

omit alike in
/-- Joining looks at the texts of the items only. -/
theorem join_pair (v w : Value) :
    join [v, w] =
      match (items? v).map itemTexts, subject? w with
      | some texts, some d => texts.map fun texts => .ofText (Text.glue d texts)
      | _, _ => .error .misapplied := by
  rw [join]
  cases items? v <;> cases subject? w <;> rfl

theorem join_samePlaces : join args = join others := by
  rcases alike with _ | ⟨first, _ | ⟨second, _ | _⟩⟩
  · rfl
  · rfl
  · rw [join_pair, join_pair, first.items?_eq, second.subject?_eq]
  · rfl

end Catalog

namespace Builtin

variable {clock : Moment} {args others : List Value}

theorem forwarded_samePlaces (d : Definition) (alike : List.Forall₂ Value.SamePlaces args others) :
    List.Forall₂ Value.SamePlaces (d.forwarded args) (d.forwarded others) := by
  unfold Definition.forwarded
  cases d.limit? with
  | none => exact alike
  | some n => exact List.forall₂_take n alike

/-- The argument that `str` is given is no array. -/
theorem exists_forwarded_str (accepts : (str.definition clock).Accepts args) :
    ∃ v, (str.definition clock).forwarded args = [v] ∧ v.isArray = false := by
  obtain ⟨v, given, kind⟩ := Catalog.exists_of_matching_singleton (forwarded_fixed rfl accepts)
  refine ⟨v, given, ?_⟩
  cases v with
  | array | tuple | signature => cases kind
  | _ => rfl

/-- Where numbers are written, equal ones are answered alike. -/
theorem call_samePlaces {b : Builtin} (writes : b ∈ [str, split, join]) (context : Value)
    (alike : List.Forall₂ Value.SamePlaces args others) : b.call clock context args = b.call clock context others := by
  have given := forwarded_samePlaces (b.definition clock) alike
  refine Definition.call_congr_of_kinds (alike.imp fun _ _ => Value.SamePlaces.sameKind) context fun accepts => ?_
  simp only [List.mem_cons, List.not_mem_nil, or_false] at writes
  rcases writes with rfl | rfl | rfl
  · obtain ⟨v, one, noArray⟩ := exists_forwarded_str accepts
    rw [one] at given ⊢
    generalize (str.definition clock).forwarded others = rest at given
    obtain _ | ⟨first, _ | _⟩ := given
    exact congrArg (fun s => Except.ok (Value.ofText s)) (first.text_eq noArray)
  · exact Catalog.split_samePlaces given
  · exact Catalog.join_samePlaces given

end Builtin

/-- **Equal numbers have one text, and `str`, `split` and `join` cannot tell them apart.**  Doubles with one
text are equal, and so are integers of up to 21 digits. -/
theorem equal_numbers_alike :
    (∀ a b : Number, a.SamePlace b → (Value.number a).text = (Value.number b).text) ∧
    (∀ x y : Double, x ≠ .nan → y ≠ .nan → (Value.double x).text = (Value.double y).text →
      (Number.double x).SamePlace (.double y)) ∧
    (∀ n m : Int, n.natAbs < 10 ^ 21 → m.natAbs < 10 ^ 21 → (Value.int n).text = (Value.int m).text → n = m) ∧
    ∀ b ∈ [Builtin.str, .split, .join], ∀ (clock : Moment) (context : Value) (args others : List Value),
      List.Forall₂ Value.SamePlaces args others → b.call clock context args = b.call clock context others := by
  refine ⟨?_, ?_, ?_, ?_⟩
  · intro a b same
    exact Number.text_eq_of_samePlace same
  · intro x y number _ same
    exact Number.samePlace_of_text_eq number same
  · intro n m first second same
    exact Number.eq_of_text_eq first second same
  · intro b writes clock context args others alike
    exact Builtin.call_samePlaces writes context alike

/-- The double that is 10 ^ 21. -/
def sextillion : Double := .finite false (5 ^ 21 * 2 ^ 4) 17 (by decide)

/-- The least integer written with an exponent and the double that is equal to it, alone and as an item
of an array in an array; and the two zeros. -/
theorem sextillion_alike :
    (Value.int (10 ^ 21)).text = (Value.double sextillion).text ∧
    (Number.double (.zero true)).SamePlace (.double (.zero false)) ∧
    Builtin.str.call .midnight .null [.int (10 ^ 21)] = Builtin.str.call .midnight .null [.double sextillion] ∧
    Builtin.split.call .midnight .null [.int (10 ^ 21), .int 0] =
      Builtin.split.call .midnight .null [.double sextillion, .double (.zero true)] ∧
    Builtin.join.call .midnight .null [.array [.null, .tuple [.array [.int (10 ^ 21)]]], .int 0] =
      Builtin.join.call .midnight .null [.array [.null, .tuple [.array [.double sextillion]]], .double (.zero true)] ∧
    ((Value.int (10 ^ 20)).text = (Value.int (10 ^ 20)).text → (10 ^ 20 : Int) = 10 ^ 20) := by
  obtain ⟨texts, doubles, ints, calls⟩ := equal_numbers_alike
  have large : (Number.int (10 ^ 21)).SamePlace (.double sextillion) := ⟨_, rfl, by decide +kernel⟩
  have zero : (Number.int 0).SamePlace (.double (.zero true)) := ⟨_, rfl, by decide +kernel⟩
  refine ⟨texts _ _ large, doubles _ _ nofun nofun (by decide +kernel), ?_, ?_, ?_, ints _ _ (by decide) (by decide)⟩
  · exact calls _ (by simp) _ _ _ _ (.cons (.number large) .nil)
  · exact calls _ (by simp) _ _ _ _ (.cons (.number large) (.cons (.number zero) .nil))
  · have nested : Value.SamePlaces (.array [.int (10 ^ 21)]) (.array [.double sextillion]) :=
      .array (.cons (.number large) .nil)
    have items : Value.SamePlaces (.array [.null, .tuple [.array [.int (10 ^ 21)]]])
        (.array [.null, .tuple [.array [.double sextillion]]]) :=
      .array (.cons (.same _) (.cons (.tuple (.cons nested .nil)) .nil))
    exact calls _ (by simp) _ _ _ _ (.cons items (.cons (.number zero) .nil))

end TemplateBuiltins
