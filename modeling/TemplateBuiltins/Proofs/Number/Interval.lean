/-
# Proofs.Number.Interval -- which numbers are rounded to a double

A finite double is a rational number (`Double.value?`), and it is the nearest double to a number
if no other is nearer to it (`nearestTo_finite_iff`).  Between the number and the double nothing
changes in that, so that the numbers that are rounded to a double form an interval around it
(`NearestTo.between`), and what stands between a double and a decimal that reads as the double
reads as it too (`Decimal.toDouble_of_between`).  The interval is not too small: the next double is away
by a 2 ^ 53th part of the double at least (`abs_le_gap`).
-/
import Mathlib.Algebra.Order.Field.Basic
import Mathlib.Order.Interval.Set.UnorderedInterval
import Mathlib.Tactic.Linarith
import TemplateBuiltins.Proofs.Number.Decimal

set_option autoImplicit false

namespace TemplateBuiltins

namespace Double

/-! ## Values -/

/-- The number that a finite double is. -/
def value? (x : Double) : Option ℚ := x.units?.map fun units : Int => (units : ℚ) / unitsPerOne

variable {r s v : ℚ} {x y : Double}

theorem unitsPerOne_cast_pos : (0 : ℚ) < unitsPerOne := Nat.cast_pos.2 unitsPerOne_pos

theorem withSign_div (negative : Bool) (a : Nat) (u : ℚ) :
    ((Text.withSign negative a : Int) : ℚ) / u = (if negative then -1 else 1) * (a / u) := by
  cases negative <;> simp [Text.withSign, neg_div]

theorem value?_finite (negative : Bool) {m : Nat} {q : Int} (standard : Standard m q) :
    (finite negative m q standard).value? =
      some ((if negative then -1 else 1) * (magnitude m q / unitsPerOne : ℚ)) :=
  congrArg some (withSign_div negative _ _)

theorem exists_units?_of_value? (value : x.value? = some v) :
    ∃ units : Int, x.units? = some units ∧ v = (units : ℚ) / unitsPerOne := by
  obtain ⟨units, place, rfl⟩ := Option.map_eq_some_iff.1 value
  exact ⟨units, place, rfl⟩

theorem exists_finite_of_value? (value : x.value? = some v) :
    ∃ negative m q, ∃ standard : Standard m q, x = .finite negative m q standard := by
  obtain ⟨units, place, -⟩ := exists_units?_of_value? value
  obtain ⟨negative, m, q, standard, same, -⟩ := exists_finite_of_units? place
  exact ⟨negative, m, q, standard, same⟩

theorem distance_cast (r : ℚ) (units : Int) :
    (distance r.num r.den units : ℚ) = |(units : ℚ) / unitsPerOne - r| * (r.den * unitsPerOne) := by
  have one := unitsPerOne_cast_pos
  have den : (0 : ℚ) < r.den := Nat.cast_pos.2 r.den_pos
  have scaled : ((units : ℚ) / unitsPerOne - r) * (r.den * unitsPerOne) = units * r.den - r.num * unitsPerOne := by
    nth_rewrite 1 [← Rat.num_div_den r]
    generalize (unitsPerOne : ℚ) = u at one
    field_simp
  rw [distance, ← abs_of_pos (mul_pos den one), ← abs_mul, scaled, Nat.cast_natAbs]
  push_cast
  rfl

theorem distance_le_iff (r : ℚ) (a b : Int) :
    distance r.num r.den a ≤ distance r.num r.den b ↔
      |(a : ℚ) / unitsPerOne - r| ≤ |(b : ℚ) / unitsPerOne - r| := by
  have positive : (0 : ℚ) < r.den * unitsPerOne := mul_pos (Nat.cast_pos.2 r.den_pos) unitsPerOne_cast_pos
  rw [← Nat.cast_le (α := ℚ), distance_cast, distance_cast, mul_le_mul_iff_left₀ positive]

theorem overflow_lt_iff (r : ℚ) : r.num.natAbs < overflow * r.den ↔ |r| < overflow := by
  have den : (0 : ℚ) < r.den := Nat.cast_pos.2 r.den_pos
  have size : |r| = (r.num.natAbs : ℚ) / r.den := by
    nth_rewrite 1 [← Rat.num_div_den r]
    rw [abs_div, Nat.abs_cast, Nat.cast_natAbs, Int.cast_abs]
  rw [size, div_lt_iff₀ den]
  exact_mod_cast Iff.rfl

/-- A finite double is the nearest to a number: no double is nearer, and one as near is the same number
unless the significand is even. -/
theorem nearestTo_finite_iff {negative : Bool} {m : Nat} {q : Int} {standard : Standard m q}
    (value : (finite negative m q standard).value? = some v) :
    NearestTo r (.finite negative m q standard) ↔
      |r| < overflow ∧ ∀ y w, value? y = some w → |v - r| ≤ |w - r| ∧ (|v - r| = |w - r| → w = v ∨ m % 2 = 0) := by
  have one := ne_of_gt unitsPerOne_cast_pos
  obtain ⟨a, here, rfl⟩ := exists_units?_of_value? value
  obtain rfl : Text.withSign negative (magnitude m q) = a := Option.some.inj here
  rw [NearestTo, Nearest, overflow_lt_iff]
  refine and_congr_right fun _ => ⟨fun nearer y w given => ?_, fun nearer y b given => ?_⟩
  · obtain ⟨b, place, rfl⟩ := exists_units?_of_value? given
    obtain ⟨least, tie⟩ := nearer y b place
    refine ⟨(distance_le_iff r _ b).1 least, fun equal => ?_⟩
    have same := Nat.le_antisymm least ((distance_le_iff r b _).2 equal.ge)
    exact (tie same).imp_left fun same => by rw [same]
  · obtain ⟨least, tie⟩ := nearer y (b / unitsPerOne) (by rw [value?, given, Option.map_some])
    refine ⟨(distance_le_iff r _ b).2 least, fun equal => ?_⟩
    have same := le_antisymm least ((distance_le_iff r b _).1 equal.ge)
    exact (tie same).imp_left fun same => by
      rw [div_left_inj' one] at same
      exact_mod_cast same

/-! ## Intervals -/

theorem abs_lt_overflow (value : x.value? = some v) : |v| < overflow := by
  obtain ⟨units, place, rfl⟩ := exists_units?_of_value? value
  have one := unitsPerOne_cast_pos
  rw [abs_div, Nat.abs_cast, div_lt_iff₀ one, ← Int.cast_abs, Int.abs_eq_natAbs]
  obtain ⟨negative, m, q, standard, rfl, rfl⟩ := exists_finite_of_units? place
  rw [Text.natAbs_withSign]
  have middle := magnitude_lt_middle Nat.one_pos standard 2045 standard.2.2.1
  rw [Nat.mul_one, Nat.one_mul, ← overflow_units] at middle
  exact_mod_cast Nat.lt_of_mul_lt_mul_left middle

/-- Integers within one of a finite double have 309 digits at most, which are written. -/
theorem isWritable_of_value? (value : x.value? = some v) {n : Int} (near : |(n : ℚ)| ≤ |v| + 1) :
    Text.isWritable n = true := by
  have fits {a b k : Nat} (le : a + b ≤ k) : 2 ^ a * 2 ^ b ≤ 10 ^ k := by
    rw [← Nat.pow_add]
    exact Nat.le_trans (Nat.pow_le_pow_left (by decide) _) (Nat.pow_le_pow_right (by decide) le)
  have next (k : Nat) : (2 ^ 54 - 1) * 2 ^ k + 1 ≤ 2 ^ 54 * 2 ^ k := by
    have one : 1 ≤ 2 ^ k := Nat.one_le_two_pow
    omega
  have room : overflow + 1 ≤ 10 ^ Text.digitLimit := Nat.le_trans (next 970) (fits (by decide))
  have size : ((n.natAbs : ℕ) : ℚ) < ((overflow + 1 : ℕ) : ℚ) := by
    rw [Nat.cast_natAbs, Int.cast_abs, Nat.cast_add, Nat.cast_one]
    exact lt_of_le_of_lt near (by linarith [abs_lt_overflow value])
  exact (Text.isWritable_iff n).2 (Nat.lt_of_lt_of_le (Nat.cast_lt.1 size) room)

/-- Every finite double is the nearest to itself. -/
theorem nearestTo_self (value : x.value? = some v) : x.NearestTo v := by
  obtain ⟨negative, m, q, standard, rfl⟩ := exists_finite_of_value? value
  refine (nearestTo_finite_iff value).2 ⟨abs_lt_overflow value, fun y w given => ?_⟩
  rw [sub_self, abs_zero]
  exact ⟨abs_nonneg _, fun equal => .inl (sub_eq_zero.1 (abs_eq_zero.1 equal.symm))⟩

theorem abs_add_of_mem_uIcc (inside : s ∈ Set.uIcc r v) : |v - s| + |s - r| = |v - r| := by
  rcases Set.mem_uIcc.1 inside with ⟨low, high⟩ | ⟨low, high⟩
  · rw [abs_of_nonneg (by linarith), abs_of_nonneg (by linarith), abs_of_nonneg (by linarith)]
    ring
  · rw [abs_of_nonpos (by linarith), abs_of_nonpos (by linarith), abs_of_nonpos (by linarith)]
    ring

/-- **The numbers that are rounded to a double form an interval around it.** -/
theorem NearestTo.between (nearest : x.NearestTo r) (value : x.value? = some v) (inside : s ∈ Set.uIcc r v) :
    x.NearestTo s := by
  have split := abs_add_of_mem_uIcc inside
  obtain ⟨negative, m, q, standard, rfl⟩ := exists_finite_of_value? value
  obtain ⟨fits, least⟩ := (nearestTo_finite_iff value).1 nearest
  refine (nearestTo_finite_iff value).2 ⟨?_, fun y w given => ?_⟩
  · have ends := abs_lt_overflow value
    rw [abs_lt] at fits ends ⊢
    rcases Set.mem_uIcc.1 inside with ⟨low, high⟩ | ⟨low, high⟩ <;> constructor <;> linarith
  · obtain ⟨nearer, tie⟩ := least y w given
    have around := abs_sub_le w s r
    exact ⟨by linarith, fun equal => tie (by linarith)⟩

theorem mem_uIcc_signed (negative : Bool) (inside : s ∈ Set.uIcc r v) :
    (if negative then -1 else 1) * s ∈
      Set.uIcc ((if negative then -1 else 1) * r) ((if negative then -1 else 1) * v) := by
  rw [Set.mem_uIcc] at inside ⊢
  cases negative
  · simpa using inside
  · simpa [and_comm] using inside.symm

/-- On the side of the double only sizes count. -/
theorem NearestTo.between_size {negative : Bool} {m : Nat} {q : Int} {standard : Standard m q}
    (nearest : (finite negative m q standard).NearestTo ((if negative then -1 else 1) * r))
    (inside : s ∈ Set.uIcc r (magnitude m q / unitsPerOne : ℚ)) :
    (finite negative m q standard).NearestTo ((if negative then -1 else 1) * s) :=
  nearest.between (value?_finite negative standard) (mem_uIcc_signed negative inside)

/-! ## Gaps between doubles -/

theorem magnitude_gap {m n : Nat} {q p : Int} (first : Standard m q) (second : Standard n p)
    (less : magnitude n p < magnitude m q) : magnitude m q ≤ (magnitude m q - magnitude n p) * 2 ^ 53 := by
  obtain ⟨places, rfl⟩ := first.exists_places
  have form := (standard_iff m places).1 first
  have power := Nat.two_pow_pos places
  have top : magnitude m (minExponent + places) < 2 ^ 53 * 2 ^ places := by
    rw [magnitude_eq]
    exact Nat.mul_lt_mul_of_pos_right form.1 power
  by_cases even : 2 ^ places ∣ magnitude n p
  · -- both are multiples of that power, so they are at least that power apart
    have whole : 2 ^ places ∣ magnitude m (minExponent + places) - magnitude n p := by
      refine Nat.dvd_sub ?_ even
      rw [magnitude_eq]
      exact Nat.dvd_mul_left _ _
    have apart := Nat.le_of_dvd (Nat.sub_pos_of_lt less) whole
    omega
  · obtain ⟨half, rfl⟩ : ∃ half, places = half + 1 :=
      Nat.exists_eq_succ_of_ne_zero fun none => even (by simp [none])
    have coarse : p ≤ minExponent + (half : Nat) := by
      obtain ⟨fine, rfl⟩ := second.exists_places
      rw [magnitude_eq] at even
      have : ¬ half + 1 ≤ fine := fun above => even (Nat.dvd_mul_left_of_dvd (Nat.pow_dvd_pow 2 above) n)
      omega
    have below := magnitude_le_greatest second half coarse
    have lead := Nat.mul_le_mul_right (2 ^ half) (form.2.2.resolve_right (Nat.succ_ne_zero half))
    rw [magnitude_eq, Nat.pow_succ, ← Nat.mul_assoc] at less ⊢
    omega

theorem magnitude_le_gap {m n : Nat} {q p : Int} (first : Standard m q) (second : Standard n p)
    (differ : magnitude m q ≠ magnitude n p) : magnitude m q ≤ gap (magnitude m q) (magnitude n p) * 2 ^ 53 := by
  rw [gap]
  rcases Nat.lt_or_gt_of_ne differ with less | more
  · rw [Nat.sub_eq_zero_of_le less.le, Nat.zero_add]
    exact le_trans less.le (magnitude_gap second first less)
  · rw [Nat.sub_eq_zero_of_le more.le, Nat.add_zero]
    exact magnitude_gap first second more

theorem units_le_gap {a b : Int} (first : x.units? = some a) (second : y.units? = some b) (differ : b ≠ a) :
    a.natAbs ≤ (b - a).natAbs * 2 ^ 53 := by
  obtain ⟨s, m, q, standard, rfl, rfl⟩ := exists_finite_of_units? first
  obtain ⟨t, n, p, form, rfl, rfl⟩ := exists_finite_of_units? second
  rw [Text.natAbs_withSign]
  by_cases side : t = s
  · have apart := magnitude_le_gap standard form fun same => differ (by rw [side, same])
    have size : (Text.withSign t (magnitude n p) - Text.withSign s (magnitude m q)).natAbs =
        gap (magnitude m q) (magnitude n p) := by
      rw [side, gap]
      cases s
      · rw [Text.withSign_false, Text.withSign_false]
        omega
      · rw [Text.withSign_true, Text.withSign_true]
        omega
    rw [size]
    exact apart
  · -- zero lies between them
    rw [Bool.eq_not.2 side]
    cases s
    · rw [Bool.not_false, Text.withSign_true, Text.withSign_false]
      omega
    · rw [Bool.not_true, Text.withSign_true, Text.withSign_false]
      omega

/-- Different doubles are apart by the 2 ^ 53th part of either of them. -/
theorem abs_le_gap (first : x.value? = some v) (second : y.value? = some s) (differ : s ≠ v) :
    |v| ≤ |s - v| * 2 ^ 53 := by
  have one := unitsPerOne_cast_pos
  obtain ⟨a, here, rfl⟩ := exists_units?_of_value? first
  obtain ⟨b, there, rfl⟩ := exists_units?_of_value? second
  have apart := units_le_gap here there fun same => differ (by rw [same])
  rw [← sub_div, abs_div, abs_div, Nat.abs_cast, div_mul_eq_mul_div, div_le_div_iff_of_pos_right one,
    ← Int.cast_sub, ← Int.cast_abs, ← Int.cast_abs, Int.abs_eq_natAbs, Int.abs_eq_natAbs]
  exact_mod_cast apart

end Double

/-! ## Decimals -/

namespace Decimal

/-- The number that a decimal denotes but for its sign. -/
def size (d : Decimal) : ℚ := d.coefficient * 10 ^ d.exponent

theorem value_eq_size (d : Decimal) : d.value = (if d.negative then -1 else 1) * d.size := by
  rw [value, size]
  cases d.negative <;> simp [Text.withSign]

theorem negative_of_toDouble {d : Decimal} {negative : Bool} {m : Nat} {q : Int} {standard : Double.Standard m q}
    (reads : d.toDouble = .finite negative m q standard) : d.negative = negative := by
  have signed := d.signed_toDouble
  rw [reads] at signed
  exact signed.symm

/-- A decimal between a double and a decimal that is read as the double is read as that double too. -/
theorem toDouble_of_between {d e : Decimal} {negative : Bool} {m : Nat} {q : Int} {standard : Double.Standard m q}
    (reads : e.toDouble = .finite negative m q standard) (sign : d.negative = negative)
    (inside : d.size ∈ Set.uIcc e.size (Double.magnitude m q / Double.unitsPerOne : ℚ)) :
    d.toDouble = .finite negative m q standard := by
  subst sign
  have nearest := e.nearestTo_toDouble
  rw [reads, value_eq_size, negative_of_toDouble reads] at nearest
  have between := nearest.between_size inside
  rw [← value_eq_size] at between
  exact d.nearestTo_toDouble.unique between d.signed_toDouble rfl

end Decimal

end TemplateBuiltins
