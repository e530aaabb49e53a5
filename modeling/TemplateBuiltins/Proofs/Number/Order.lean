/-
# Proofs.Number.Order -- numbers compared by their exact values

A number that is not nothing has an exact value: a rational number, or one of the two ends
of the number line (`Number.onLine?`).  Numbers are compared by counting units of `2 ^ -1074`,
which is the comparison of these values (`Number.lt_iff_line`), so that an integer is never
rounded to be compared with a double.

Which number stands first among the best of a list can be told of any strict order on the
values, of less or of greater (`Number.First`), and there is only one such number
(`First.unique`).  What is the first of the best of two parts of a list is told by what each
part comes to (`First.append`).  An extremum is chosen from the left, by that step with one
number after another, and so it is the first of the best, unless a NaN prevails
(`picked_extremum`).
-/
import Mathlib.Order.RelClasses
import Mathlib.Order.WithBot
import TemplateBuiltins.Proofs.Number.Notation

set_option autoImplicit false

namespace TemplateBuiltins

/-- A rational number, or one of the two ends of the number line. -/
abbrev Line : Type := WithBot (WithTop ℚ)

namespace Line

def ofRat (v : ℚ) : Line := ((v : WithTop ℚ) : WithBot (WithTop ℚ))

def ofEnd (negative : Bool) : Line := if negative then ⊥ else ((⊤ : WithTop ℚ) : WithBot (WithTop ℚ))

theorem ofRat_lt_iff (v w : ℚ) : ofRat v < ofRat w ↔ v < w := by
  rw [ofRat, ofRat, WithBot.coe_lt_coe, WithTop.coe_lt_coe]

theorem bottom_lt_ofRat (v : ℚ) : ofEnd true < ofRat v := WithBot.bot_lt_coe _

theorem ofRat_lt_top (v : ℚ) : ofRat v < ofEnd false := WithBot.coe_lt_coe.2 (WithTop.coe_lt_top v)

theorem bottom_lt_top : ofEnd true < ofEnd false := WithBot.bot_lt_coe _

end Line

/-- The exact value of a place. -/
def Place.line : Place → Line
  | .bottom => .ofEnd true
  | .units n => .ofRat (n / Double.unitsPerOne)
  | .top => .ofEnd false

theorem Place.lt_iff_line (p q : Place) : p.lt q = true ↔ p.line < q.line := by
  cases p with
  | bottom =>
      cases q with
      | bottom => exact iff_of_false Bool.false_ne_true (lt_irrefl _)
      | units b => exact iff_of_true rfl (Line.bottom_lt_ofRat _)
      | top => exact iff_of_true rfl Line.bottom_lt_top
  | units a =>
      cases q with
      | bottom => exact iff_of_false Bool.false_ne_true (Line.bottom_lt_ofRat _).not_gt
      | units b =>
          rw [lt, decide_eq_true_iff, line, line, Line.ofRat_lt_iff,
            div_lt_div_iff_of_pos_right Double.unitsPerOne_cast_pos, Int.cast_lt]
      | top => exact iff_of_true rfl (Line.ofRat_lt_top _)
  | top =>
      cases q with
      | bottom => exact iff_of_false Bool.false_ne_true Line.bottom_lt_top.not_gt
      | units b => exact iff_of_false Bool.false_ne_true (Line.ofRat_lt_top _).not_gt
      | top => exact iff_of_false Bool.false_ne_true (lt_irrefl _)

namespace Number

/-- The exact value of a number; what is not a number has none. -/
def onLine? : Number → Option Line
  | .int n => some (.ofRat n)
  | .double .nan => none
  | .double (.infinite negative) => some (.ofEnd negative)
  | .double x => x.value?.map .ofRat

theorem onLine?_eq_place (n : Number) : n.onLine? = n.place?.map Place.line := by
  cases n with
  | int n =>
      have whole : ((n * (Double.unitsPerOne : Int) : Int) : ℚ) / Double.unitsPerOne = n := by
        push_cast
        exact mul_div_cancel_right₀ _ Double.unitsPerOne_cast_pos.ne'
      rw [onLine?, place?, Option.map_some, Place.line, whole]
  | double x =>
      cases x with
      | nan => rfl
      | infinite negative => cases negative <;> rfl
      | finite negative m q standard => rfl

/-- **Comparing numbers is comparing their exact values.** -/
theorem lt_iff_line (a b : Number) :
    a.lt b = true ↔ ∃ v w, a.onLine? = some v ∧ b.onLine? = some w ∧ v < w := by
  rw [lt, onLine?_eq_place, onLine?_eq_place]
  cases a.place? with
  | none => simp
  | some p =>
      cases b.place? with
      | none => simp
      | some q => simp [p.lt_iff_line q]

theorem onLine?_eq_none_iff (n : Number) : n.onLine? = none ↔ n = .double .nan := by
  cases n with
  | int n => simp [onLine?]
  | double x =>
      cases x with
      | nan => exact iff_of_true rfl rfl
      | infinite negative => exact iff_of_false (Option.some_ne_none _) nofun
      | finite negative m q standard => exact iff_of_false (Option.some_ne_none _) nofun

theorem exists_onLine? {n : Number} (number : n ≠ .double .nan) : ∃ v, n.onLine? = some v :=
  Option.ne_none_iff_exists'.1 fun none => number ((onLine?_eq_none_iff n).1 none)

theorem isNan_iff (n : Number) : n.isNan = true ↔ n = .double .nan := by
  cases n with
  | int n => simp [isNan]
  | double x => cases x <;> simp [isNan, Double.isNan]

/-! ## The first of the best -/

variable {worse : Line → Line → Prop} {xs ys : List Number} {a b : Number}

/-- A number stands in a list behind worse numbers only, and no number behind it is better. -/
def First (worse : Line → Line → Prop) (ns : List Number) (n : Number) : Prop :=
  ∃ before behind v, ns = before ++ n :: behind ∧ n.onLine? = some v ∧
    (∀ m ∈ before, ∃ w, m.onLine? = some w ∧ worse w v) ∧
    ∀ m ∈ behind, ∃ w, m.onLine? = some w ∧ ¬ worse v w

theorem First.mem (first : First worse xs a) : a ∈ xs := by
  obtain ⟨before, behind, v, rfl, -⟩ := first
  simp

theorem First.exists_onLine? (first : First worse xs a) : ∃ v, a.onLine? = some v := by
  obtain ⟨before, behind, v, -, value, -⟩ := first
  exact ⟨v, value⟩

theorem first_singleton {v : Line} (value : a.onLine? = some v) : First worse [a] a :=
  ⟨[], [], v, rfl, value, by simp, by simp⟩

/-- There is one first of the best. -/
theorem First.unique (first : First worse xs a) (second : First worse xs b) : a = b := by
  -- of two numbers the one in front is worse, and so the one behind is better
  have apart {a b : Number} {v w : Line} (here : a.onLine? = some v) (there : b.onLine? = some w)
      (front : ∃ u, a.onLine? = some u ∧ worse u w) (back : ∃ u, b.onLine? = some u ∧ ¬ worse v u) : False := by
    obtain ⟨u, value, less⟩ := front
    obtain ⟨t, value', notLess⟩ := back
    obtain rfl : u = v := Option.some.inj (value.symm.trans here)
    obtain rfl : t = w := Option.some.inj (value'.symm.trans there)
    exact notLess less
  obtain ⟨before, behind, v, rfl, here, less, rest⟩ := first
  obtain ⟨front, back, w, same, there, less', rest'⟩ := second
  rcases List.append_eq_append_iff.1 same with ⟨between, rfl, split⟩ | ⟨between, rfl, split⟩
  · cases between with
    | nil => exact (List.cons.inj split).1
    | cons c between =>
        obtain ⟨rfl, rfl⟩ := List.cons.inj split
        exact (apart here there (less' a (by simp)) (rest b (by simp))).elim
  · cases between with
    | nil => exact (List.cons.inj split).1.symm
    | cons c between =>
        obtain ⟨rfl, rfl⟩ := List.cons.inj split
        exact (apart there here (less b (by simp)) (rest' a (by simp))).elim

variable [IsStrictTotalOrder Line worse]

/-- Nothing in the list is better. -/
theorem First.not_worse (first : First worse xs a) {v : Line} (value : a.onLine? = some v) :
    ∀ m ∈ xs, ∃ w, m.onLine? = some w ∧ ¬ worse v w := by
  obtain ⟨before, behind, u, rfl, same, less, rest⟩ := first
  obtain rfl : u = v := Option.some.inj (same.symm.trans value)
  intro m inside
  rcases List.mem_append.1 inside with front | inside
  · obtain ⟨w, place, worse⟩ := less m front
    exact ⟨w, place, asymm worse⟩
  · rcases List.mem_cons.1 inside with rfl | back
    · exact ⟨u, value, irrefl u⟩
    · exact rest m back

/-- Of what two parts come to, the second is the first of the best of both where it is better, and the first
is everywhere else. -/
theorem First.append (first : First worse xs a) (second : First worse ys b) {v w : Line}
    (here : a.onLine? = some v) (there : b.onLine? = some w) :
    (worse v w → First worse (xs ++ ys) b) ∧ (¬ worse v w → First worse (xs ++ ys) a) := by
  constructor
  · intro better
    obtain ⟨before, behind, w', rfl, value, less, rest⟩ := second
    obtain rfl : w' = w := Option.some.inj (value.symm.trans there)
    refine ⟨xs ++ before, behind, w', by simp, value, fun m inside => ?_, rest⟩
    rcases List.mem_append.1 inside with front | inside
    · obtain ⟨u, place, notWorse⟩ := first.not_worse here m front
      exact ⟨u, place, (IsOrderConnected.conn v u w' better).resolve_left notWorse⟩
    · exact less m inside
  · intro notBetter
    have bound := second.not_worse there
    obtain ⟨before, behind, v', rfl, value, less, rest⟩ := first
    obtain rfl : v' = v := Option.some.inj (value.symm.trans here)
    refine ⟨before, behind ++ ys, v', by simp, value, less, fun m inside => ?_⟩
    rcases List.mem_append.1 inside with behind | inside
    · exact rest m behind
    · obtain ⟨u, place, notWorse⟩ := bound m inside
      exact ⟨u, place, fun better => (IsOrderConnected.conn v' w u better).elim notBetter notWorse⟩

/-- What two parts come to comes to the same as the parts do. -/
theorem First.append_of_pair {c : Number} (first : First worse xs a) (second : First worse ys b)
    (pair : First worse [a, b] c) : First worse (xs ++ ys) c := by
  obtain ⟨v, here⟩ := first.exists_onLine?
  obtain ⟨w, there⟩ := second.exists_onLine?
  have whole := first.append second here there
  have front : First worse [a] a := first_singleton here
  have both := front.append (first_singleton there) here there
  by_cases better : worse v w
  · obtain rfl := pair.unique (both.1 better)
    exact whole.1 better
  · obtain rfl := pair.unique (both.2 better)
    exact whole.2 better

/-- The order of a list does not count for the value of its best. -/
theorem First.onLine?_eq (first : First worse xs a) (second : First worse ys b) (same : xs.Perm ys) :
    a.onLine? = b.onLine? := by
  obtain ⟨v, here⟩ := first.exists_onLine?
  obtain ⟨w, there⟩ := second.exists_onLine?
  obtain ⟨w', place, notLess⟩ := first.not_worse here b (same.mem_iff.2 second.mem)
  obtain ⟨v', place', notMore⟩ := second.not_worse there a (same.mem_iff.1 first.mem)
  obtain rfl : w' = w := Option.some.inj (place.symm.trans there)
  obtain rfl : v' = v := Option.some.inj (place'.symm.trans here)
  rw [here, there, Std.Trichotomous.trichotomous v' w' notLess notMore]

/-! ## Choosing from the left -/

/-- A comparison of numbers prefers better values. -/
def Prefers (better : Number → Number → Bool) (worse : Line → Line → Prop) : Prop :=
  ∀ x y v w, x.onLine? = some v → y.onLine? = some w → (better x y = true ↔ worse w v)

theorem prefers_greater : Prefers (fun x y => y.lt x) (· < ·) := by
  intro x y v w here there
  rw [lt_iff_line]
  constructor
  · rintro ⟨w', v', place', place, less⟩
    rwa [Option.some.inj (there.symm.trans place'), Option.some.inj (here.symm.trans place)]
  · intro less
    exact ⟨w, v, there, here, less⟩

theorem prefers_less : Prefers (fun x y => x.lt y) (· > ·) :=
  fun x y v w here there => prefers_greater y x w v there here

variable {better : Number → Number → Bool}

/-- What is chosen stays the first of the best of what has been read. -/
theorem first_foldl (prefers : Prefers better worse) {read : List Number} (first : First worse read a)
    (numbers : Number.double .nan ∉ xs) :
    First worse (read ++ xs) (xs.foldl (fun chosen x => if better x chosen then x else chosen) a) := by
  induction xs generalizing read a with
  | nil => simpa using first
  | cons x xs ih =>
      rw [List.mem_cons, not_or] at numbers
      obtain ⟨v, here⟩ := first.exists_onLine?
      obtain ⟨w, there⟩ := exists_onLine? (Ne.symm numbers.1)
      have step := first.append (first_singleton there) here there
      have next : First worse (read ++ [x]) (if better x a then x else a) := by
        split
        · rename_i chosen
          exact step.1 ((prefers x a w v there here).1 chosen)
        · rename_i passed
          exact step.2 fun less => passed ((prefers x a w v there here).2 less)
      rw [List.foldl_cons, List.append_cons]
      exact ih next numbers.2

/-! ## What is picked -/

/-- What a list comes to: a NaN prevails, and without one the first of the best is picked. -/
inductive Picked (worse : Line → Line → Prop) (ns : List Number) : Number → Prop
  | nan (inside : Number.double .nan ∈ ns) : Picked worse ns (.double .nan)
  | first {n : Number} (numbers : Number.double .nan ∉ ns) (first : First worse ns n) : Picked worse ns n

theorem picked_extremum (prefers : Prefers better worse) (n : Number) (others : List Number) :
    Picked worse (n :: others) (extremum better n others) := by
  have any : (n :: others).any isNan = true ↔ Number.double .nan ∈ n :: others := by
    simp only [List.any_eq_true, isNan_iff, exists_eq_right]
  rw [extremum]
  split
  · rename_i nan
    exact .nan (any.1 nan)
  · rename_i numbers
    rw [any] at numbers
    refine .first numbers ?_
    rw [List.mem_cons, not_or] at numbers
    obtain ⟨v, here⟩ := exists_onLine? (Ne.symm numbers.1)
    exact first_foldl prefers (first_singleton here) numbers.2

omit [IsStrictTotalOrder Line worse] in
theorem Picked.unique (first : Picked worse xs a) (second : Picked worse xs b) : a = b := by
  cases first with
  | nan inside =>
      cases second with
      | nan => rfl
      | first numbers => exact absurd inside numbers
  | first numbers first =>
      cases second with
      | nan inside => exact absurd inside numbers
      | first _ second => exact first.unique second

/-- The order of a list does not count for the value of what it comes to. -/
theorem Picked.onLine?_eq (first : Picked worse xs a) (second : Picked worse ys b) (same : xs.Perm ys) :
    a.onLine? = b.onLine? := by
  cases first with
  | nan inside =>
      cases second with
      | nan => rfl
      | first numbers => exact absurd (same.mem_iff.1 inside) numbers
  | first numbers first =>
      cases second with
      | nan inside => exact absurd (same.mem_iff.2 inside) numbers
      | first _ second => exact first.onLine?_eq second same

/-- What two lists come to comes to what they come to together. -/
theorem Picked.append {c : Number} (first : Picked worse xs a) (second : Picked worse ys b)
    (pair : Picked worse [a, b] c) : Picked worse (xs ++ ys) c := by
  cases pair with
  | nan inside =>
      -- one of the two is a NaN, and no first of the best is one
      refine .nan (List.mem_append.2 ?_)
      rcases List.mem_pair.1 inside with rfl | rfl
      · cases first with
        | nan here => exact .inl here
        | first _ first => exact .inl first.mem
      · cases second with
        | nan here => exact .inr here
        | first _ second => exact .inr second.mem
  | first numbers pair =>
      cases first with
      | nan => simp at numbers
      | first left first =>
          cases second with
          | nan => simp at numbers
          | first right second =>
              exact .first (by simp [left, right]) (first.append_of_pair second pair)

end Number

end TemplateBuiltins
