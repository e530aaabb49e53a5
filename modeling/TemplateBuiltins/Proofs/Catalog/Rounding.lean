/-
# Proofs.Catalog.Rounding -- `floor` and `ceil` are exact

A finite number is rounded down or up by its units of `2 ^ -1074`.  The quotient of whole
numbers that this takes is the greatest integer below the value of the number, or the least
above it, however large it is (`Number.floor_of_value`, `Number.ceil_of_value`), since every
double is a whole number of units.  What has no value is left as it is.
Everything else about the two functions is what holds of the greatest integer below a
rational number and the least above it (`Builtin.floor_ceil_exact`).

What is rounded must be shown in the log first.  Every double is, and so is what it is rounded
to (`Double.isWritable_of_value?`), but not an integer of too many digits
(`Builtin.floor_longInteger`).
-/
import Mathlib.Algebra.Order.Floor.Ring
import Mathlib.Data.Rat.Floor
import Mathlib.Tactic.NormNum
import TemplateBuiltins.Proofs.Catalog.Results
import TemplateBuiltins.Proofs.Number.Notation

set_option autoImplicit false

namespace TemplateBuiltins

/-- The double of opposite sign. -/
def Double.neg : Double → Double
  | .nan => .nan
  | .infinite negative => .infinite !negative
  | .finite negative m q standard => .finite (!negative) m q standard

namespace Number

/-- The number of opposite sign. -/
def neg : Number → Number
  | .int n => .int (-n)
  | .double x => .double x.neg

variable {x : Number} {v : ℚ}

theorem value?_neg (value : x.value? = some v) : x.neg.value? = some (-v) := by
  cases x with
  | int n =>
      cases value
      rw [neg, value?, Int.cast_neg]
  | double x =>
      obtain ⟨negative, m, q, standard, rfl⟩ := Double.exists_finite_of_value? value
      rw [value?, Double.value?_finite, Option.some.injEq] at value
      rw [neg, Double.neg, value?, Double.value?_finite, ← value]
      generalize (Double.magnitude m q / Double.unitsPerOne : ℚ) = size
      cases negative <;> simp

/-- The numbers without a value. -/
theorem value?_eq_none_iff (x : Number) :
    x.value? = none ↔ x = .double .nan ∨ ∃ negative, x = .double (.infinite negative) := by
  cases x with
  | int n => simp [value?]
  | double x =>
      cases x with
      | nan => exact iff_of_true rfl (.inl rfl)
      | infinite negative => exact iff_of_true rfl (.inr ⟨negative, rfl⟩)
      | finite negative m q standard => exact iff_of_false (Option.some_ne_none _) (by simp)

theorem floorUnits_eq (units : Int) : floorUnits units = ⌊(units : ℚ) / Double.unitsPerOne⌋ := by
  rw [floorUnits, Int.fdiv_eq_ediv_of_nonneg _ (Int.natCast_nonneg _), Rat.floor_intCast_div_natCast]

theorem ceilUnits_eq (units : Int) : ceilUnits units = ⌈(units : ℚ) / Double.unitsPerOne⌉ := by
  rw [ceilUnits, ← floorUnits, floorUnits_eq, Int.cast_neg, neg_div, Int.floor_neg, neg_neg]

theorem floor_of_value (value : x.value? = some v) : x.floor = .int ⌊v⌋ := by
  cases x with
  | int n =>
      cases value
      rw [floor, roundWith, Int.floor_intCast]
  | double x =>
      obtain ⟨units, place, rfl⟩ := Double.exists_units?_of_value? value
      simp only [floor, roundWith, place, floorUnits_eq]

theorem ceil_of_value (value : x.value? = some v) : x.ceil = .int ⌈v⌉ := by
  cases x with
  | int n =>
      cases value
      rw [ceil, roundWith, Int.ceil_intCast]
  | double x =>
      obtain ⟨units, place, rfl⟩ := Double.exists_units?_of_value? value
      simp only [ceil, roundWith, place, ceilUnits_eq]

theorem isShowable_neg (x : Number) : x.neg.isShowable = x.isShowable := by
  cases x with
  | int n => rw [neg, isShowable, isShowable, Text.isWritable, Text.isWritable, Int.natAbs_neg]
  | double x => rfl

/-- What is within one of a number and has its value if it is whole can be shown as the number can. -/
theorem isShowable_of_value? (value : x.value? = some v) (showable : x.isShowable = true) {n : Int}
    (near : |(n : ℚ)| ≤ |v| + 1) (whole : ∀ k : Int, v = k → n = k) : (Number.int n).isShowable = true := by
  cases x with
  | int k =>
      cases value
      obtain rfl := whole k rfl
      exact showable
  | double x =>
      rw [isShowable]
      exact Double.isWritable_of_value? value near

theorem isShowable_floor (value : x.value? = some v) (showable : x.isShowable = true) :
    (Number.int ⌊v⌋).isShowable = true := by
  refine isShowable_of_value? value showable (abs_le.2 ⟨?_, ?_⟩) ?_
  · have := Int.lt_floor_add_one v
    have := neg_abs_le v
    linarith
  · have := Int.floor_le v
    have := le_abs_self v
    linarith
  · rintro k rfl
    exact Int.floor_intCast k

theorem isShowable_ceil (value : x.value? = some v) (showable : x.isShowable = true) :
    (Number.int ⌈v⌉).isShowable = true := by
  refine isShowable_of_value? value showable (abs_le.2 ⟨?_, ?_⟩) ?_
  · have := Int.le_ceil v
    have := neg_abs_le v
    linarith
  · have := Int.ceil_lt_add_one v
    have := le_abs_self v
    linarith
  · rintro k rfl
    exact Int.ceil_intCast k

theorem roundWith_of_valueless (valueless : x.value? = none) (rule : Int → Int) : roundWith rule x = x := by
  rcases (value?_eq_none_iff x).1 valueless with rfl | ⟨negative, rfl⟩ <;> rfl

end Number

namespace Builtin

variable {clock : Moment} {b : Builtin} {surplus : List Value} {x : Number} {v : ℚ}

/-- A function on one number answers every number that can be shown, whatever stands behind it. -/
theorem call_ofNumber {f : Number → Value} (parameters : b.parameters = .fixed [.only .number])
    (body : b.body clock = Catalog.ofNumber f) (context : Value) (shown : Shown (.number x :: surplus)) :
    b.call clock context (.number x :: surplus) = .ok (f x) := by
  obtain ⟨first, rest⟩ := (shown_cons_iff _ _).1 shown
  have matching : Catalog.Matching [.only .number] [.number x] :=
    .cons ((Signature.matchesValue_number_iff _).2 ⟨x, rfl⟩) .nil
  have accepts : (b.definition clock).Accepts [.number x] := accepts_fixed parameters matching
  have shape : (b.definition clock).toParameters = .fixed [.only .number] := parameters
  have given : (b.definition clock).forwarded [.number x] = [.number x] := by
    simp [Definition.forwarded, Parameters.limit?, shape, Parameters.fixed]
  have alone : b.call clock context (.number x :: surplus) = b.call clock context [.number x] := by
    have enough : (b.definition clock).positions.length ≤ [Value.number x].length := by rw [shape]; rfl
    exact Definition.call_append (by rw [shape]; rfl) (by rw [shape]; rfl) enough context rest
  rw [alone, call, accepts.call_eq ((shown_cons_iff _ _).2 ⟨first, shown_nil⟩), given]
  show (b.body clock).run context [.number x] = _
  rw [body]
  rfl

variable (context : Value) (shown : Shown (.number x :: surplus))

include shown

theorem call_floor (value : x.value? = some v) :
    floor.call clock context (.number x :: surplus) = .ok (.int ⌊v⌋) :=
  (call_ofNumber rfl rfl context shown).trans (by rw [Number.floor_of_value value]; rfl)

theorem call_ceil (value : x.value? = some v) :
    ceil.call clock context (.number x :: surplus) = .ok (.int ⌈v⌉) :=
  (call_ofNumber rfl rfl context shown).trans (by rw [Number.ceil_of_value value]; rfl)

/-- Another number that can be shown stands in the place of the first. -/
theorem shown_instead {y : Number} (showable : x.isShowable = true → y.isShowable = true) :
    Shown (.number y :: surplus) := by
  obtain ⟨first, rest⟩ := (shown_cons_iff _ _).1 shown
  exact (shown_cons_iff _ _).2 ⟨showable first, rest⟩

omit shown

/-- **`floor` and `ceil` are exact on every finite number.**  They answer the integers on either side of the
value and less than one away from it, of any size.  They mirror each other, they are the same for whole
numbers and one apart for all others, they keep the order, and nothing changes a second time.  The numbers
without a value are the NaN and the infinities, and they stay.  All this is so for arguments that can be
shown; where they cannot, both fail with an error of the conversion. -/
theorem floor_ceil_exact (clock : Moment) (context : Value) (surplus : List Value) :
    (∀ x v, Number.value? x = some v → Shown (.number x :: surplus) → ∃ f c : Int,
      floor.call clock context (.number x :: surplus) = .ok (.int f) ∧ (f : ℚ) ≤ v ∧ v < f + 1 ∧
      ceil.call clock context (.number x :: surplus) = .ok (.int c) ∧ (c : ℚ) - 1 < v ∧ v ≤ c ∧
      floor.call clock context (.number x.neg :: surplus) = .ok (.int (-c)) ∧
      ((∃ k : Int, v = k) → c - f = 0) ∧ ((¬ ∃ k : Int, v = k) → c - f = 1) ∧
      floor.call clock context (.int f :: surplus) = .ok (.int f) ∧
      ceil.call clock context (.int c :: surplus) = .ok (.int c)) ∧
    (∀ x y v w, Number.value? x = some v → Number.value? y = some w → v ≤ w →
      Shown (.number x :: surplus) → Shown (.number y :: surplus) → ∃ f g c d : Int,
      floor.call clock context (.number x :: surplus) = .ok (.int f) ∧
      floor.call clock context (.number y :: surplus) = .ok (.int g) ∧ f ≤ g ∧
      ceil.call clock context (.number x :: surplus) = .ok (.int c) ∧
      ceil.call clock context (.number y :: surplus) = .ok (.int d) ∧ c ≤ d) ∧
    (∀ x, Number.value? x = none ↔ x = .double .nan ∨ ∃ negative, x = .double (.infinite negative)) ∧
    (∀ x, Number.value? x = none → Shown surplus →
      floor.call clock context (.number x :: surplus) = .ok (.number x) ∧
      ceil.call clock context (.number x :: surplus) = .ok (.number x)) ∧
    ∀ x, ¬ Shown (.number x :: surplus) →
      floor.call clock context (.number x :: surplus) = .error (.tooLong none) ∧
      ceil.call clock context (.number x :: surplus) = .error (.tooLong none) := by
  refine ⟨fun x v value shown => ?_, fun x y v w value other le shown shown' => ?_, Number.value?_eq_none_iff,
    fun x valueless shown => ?_, fun x hidden => ?_⟩
  · have below : floor.call clock context (.number x :: surplus) = .ok (.int ⌊v⌋) := call_floor context shown value
    have above : ceil.call clock context (.number x :: surplus) = .ok (.int ⌈v⌉) := call_ceil context shown value
    have opposite := shown_instead shown fun showable => (Number.isShowable_neg x).trans showable
    have mirrored : floor.call clock context (.number x.neg :: surplus) = .ok (.int ⌊-v⌋) :=
      call_floor context opposite (Number.value?_neg value)
    rw [Int.floor_neg] at mirrored
    refine ⟨⌊v⌋, ⌈v⌉, below, Int.floor_le v, Int.lt_floor_add_one v, above, ?_, Int.le_ceil v, mirrored,
      ?_, ?_, ?_, ?_⟩
    · exact sub_lt_iff_lt_add.2 (Int.ceil_lt_add_one v)
    · rintro ⟨k, rfl⟩
      rw [Int.ceil_intCast, Int.floor_intCast, sub_self]
    · intro broken
      have apart : ⌈v⌉ = ⌊v⌋ + 1 := (Int.ceil_eq_floor_add_one_iff_notMem v).2 fun ⟨k, same⟩ => broken ⟨k, same.symm⟩
      rw [apart, add_sub_cancel_left]
    · exact call_ofNumber (b := floor) rfl rfl context (shown_instead shown (Number.isShowable_floor value))
    · exact call_ofNumber (b := ceil) rfl rfl context (shown_instead shown (Number.isShowable_ceil value))
  · exact ⟨_, _, _, _, call_floor context shown value, call_floor context shown' other, Int.floor_mono le,
      call_ceil context shown value, call_ceil context shown' other, Int.ceil_mono le⟩
  · have showable : x.isShowable = true := by
      rcases (Number.value?_eq_none_iff x).1 valueless with rfl | ⟨negative, rfl⟩ <;> rfl
    have both : Shown (.number x :: surplus) := (shown_cons_iff _ _).2 ⟨showable, shown⟩
    constructor
    · rw [call_ofNumber rfl rfl context both, Number.floor, Number.roundWith_of_valueless valueless]
    · rw [call_ofNumber rfl rfl context both, Number.ceil, Number.roundWith_of_valueless valueless]
  · exact ⟨Definition.call_of_hidden hidden _ context, Definition.call_of_hidden hidden _ context⟩

/-- The double one half below zero. -/
def minusHalf : Number := .double (.finite true (2 ^ 52) (-53) (by decide))

/-- The greatest double. -/
def farthest : Number := .double (.finite false (2 ^ 53 - 1) 971 (by decide))

/-- One half below zero is rounded to either side, the greatest double is an integer of 309 digits, the
infinity below all numbers stays, and what is too long stands behind a number as little as before it. -/
theorem floor_ceil_exact_far :
    (∃ f c : Int, floor.call .midnight .null [.number minusHalf] = .ok (.int f) ∧
      (f : ℚ) ≤ -1 / 2 ∧ (-1 / 2 : ℚ) < f + 1 ∧
      ceil.call .midnight .null [.number minusHalf] = .ok (.int c) ∧ c - f = 1 ∧
      floor.call .midnight .null [.number minusHalf.neg] = .ok (.int (-c))) ∧
    (∃ f c : Int, floor.call .midnight .null [.number farthest] = .ok (.int f) ∧
      ceil.call .midnight .null [.number farthest] = .ok (.int c) ∧ c - f = 0) ∧
    (∃ f g : Int, floor.call .midnight .null [.number minusHalf] = .ok (.int f) ∧
      floor.call .midnight .null [.number farthest] = .ok (.int g) ∧ f ≤ g) ∧
    ceil.call .midnight .null [.double (.infinite true), .null] = .ok (.double (.infinite true)) ∧
    floor.call .midnight .null [.number minusHalf, .int Text.longInteger] = .error (.tooLong none) := by
  have half : minusHalf.value? = some (-1 / 2) := by decide +kernel
  have far : farthest.value? = some (((2 ^ 53 - 1) * 2 ^ 971 : Int) : ℚ) := by decide +kernel
  have alone {x : Double} : Shown [.double x] := List.forall_mem_singleton.2 (Value.isShowable_number _)
  obtain ⟨exact, order, -⟩ := floor_ceil_exact .midnight .null []
  obtain ⟨-, -, -, unchanged, -⟩ := floor_ceil_exact .midnight .null [.null]
  obtain ⟨-, -, -, -, refused⟩ := floor_ceil_exact .midnight .null [.int Text.longInteger]
  obtain ⟨f, c, below, least, less, above, -, -, mirrored, -, apart, -⟩ := exact minusHalf _ half alone
  obtain ⟨f', c', below', -, -, above', -, -, -, whole, -⟩ := exact farthest _ far alone
  have positive : (0 : ℚ) ≤ ((2 ^ 53 - 1) * 2 ^ 971 : Int) :=
    Int.cast_nonneg (Int.mul_nonneg (by norm_num) (Int.pow_nonneg (by norm_num)))
  obtain ⟨g, g', -, -, low, high, le, -⟩ :=
    order minusHalf farthest _ _ half far (le_trans (by norm_num) positive) alone alone
  have hidden : ¬ Shown [.number minusHalf, .int Text.longInteger] :=
    not_shown_of_mem (List.mem_cons_of_mem _ List.mem_cons_self) Value.isShowable_longInteger
  refine ⟨⟨f, c, below, least, less, above, apart ?_, mirrored⟩, ⟨f', c', below', above', whole ⟨_, rfl⟩⟩,
    ⟨g, g', low, high, le⟩, (unchanged _ rfl (List.forall_mem_singleton.2 rfl)).2, (refused _ hidden).1⟩
  rintro ⟨k, same⟩
  have twice : -1 = 2 * k := by
    have : (-1 : ℚ) = 2 * k := by linarith
    exact_mod_cast this
  omega

/-- An integer of more digits than are written is not rounded, although it is an integer already. -/
theorem floor_longInteger :
    (Number.int Text.longInteger).value? = some (Text.longInteger : ℚ) ∧
      ∀ f, floor.call .midnight .null [.int Text.longInteger] ≠ .ok (.int f) := by
  have hidden : ¬ Shown [.int Text.longInteger] := not_shown_of_mem List.mem_cons_self Value.isShowable_longInteger
  refine ⟨rfl, fun f answered => ?_⟩
  rw [call, Definition.call_of_hidden hidden] at answered
  cases answered

end Builtin

end TemplateBuiltins
