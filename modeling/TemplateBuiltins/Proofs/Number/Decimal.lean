/-
# Proofs.Number.Decimal -- a decimal goes to the nearest double

The value of a decimal is a rational number (`Decimal.value`), and which double is the
nearest to a rational number does not depend on the quotient that it is given by
(`nearestTo_div_iff`).  Where the place of the leading digit decides alone, the value lies
behind the overflow, or nearer to zero than half a unit; everywhere else the quotient is
rounded.  So each decimal goes to the nearest double, with its own sign
(`Decimal.nearestTo_toDouble`), and there is only one such double (`NearestTo.unique`).

What a decimal numeral denotes as a decimal has the value that its digits say
(`Numeral.value_decimal`).
-/
import Mathlib.Algebra.Order.Field.Rat
import Mathlib.Data.Rat.Lemmas
import Mathlib.Tactic.FieldSimp
import Mathlib.Tactic.Ring
import TemplateBuiltins.Number.Numeral
import TemplateBuiltins.Proofs.Number.Shortest

set_option autoImplicit false

namespace TemplateBuiltins

namespace Double

/-! ## Nearest to a rational number -/

theorem distance_scale (num : Int) (den k : Nat) (units : Int) :
    distance (num * k) (den * k) units = distance num den units * k := by
  have factor : units * (den * k : Nat) - num * k * unitsPerOne = (units * den - num * unitsPerOne) * k := by
    push_cast
    ring
  rw [distance, factor, Int.natAbs_mul, Int.natAbs_natCast, distance]

/-- A common factor does not count. -/
theorem nearest_scale (num : Int) (den : Nat) {k : Nat} (positive : 0 < k) (x : Double) :
    Nearest (num * k) (den * k) x ↔ Nearest num den x := by
  have size : (num * k).natAbs = num.natAbs * k := by rw [Int.natAbs_mul, Int.natAbs_natCast]
  have bound : overflow * (den * k) = overflow * den * k := (Nat.mul_assoc _ _ _).symm
  cases x with
  | nan => rfl
  | infinite negative =>
      have below : num * k < 0 ↔ num < 0 := by
        have step : num * k < 0 * k ↔ num < 0 := Int.mul_lt_mul_right (Int.natCast_pos.2 positive)
        rwa [Int.zero_mul] at step
      rw [Nearest, Nearest, size, bound, below, Nat.mul_le_mul_right_iff positive]
  | finite negative m q standard =>
      simp only [Nearest, distance_scale, size, bound, Nat.mul_lt_mul_right positive,
        Nat.mul_le_mul_right_iff positive, Nat.mul_left_inj (Nat.ne_of_gt positive)]

theorem nearest_congr {a c : Int} {b d : Nat} (first : 0 < b) (second : 0 < d) (same : a * d = c * b)
    (x : Double) : Nearest a b x ↔ Nearest c d x := by
  rw [← nearest_scale a b second, ← nearest_scale c d first, same, Nat.mul_comm d b]

/-- A double is the nearest to a rational number; in a tie the one with an even significand is. -/
def NearestTo (r : ℚ) (x : Double) : Prop := Nearest r.num r.den x

theorem nearestTo_div_iff (a : Int) {b : Nat} (positive : 0 < b) (x : Double) :
    NearestTo ((a : ℚ) / b) x ↔ Nearest a b x := by
  have cross : ((a : ℚ) / b).num * (b : Int) = a * ((a : ℚ) / b).den := by
    have whole := Rat.num_div_den ((a : ℚ) / b)
    have first : (b : ℚ) ≠ 0 := by exact_mod_cast Nat.ne_of_gt positive
    have second : (((a : ℚ) / b).den : ℚ) ≠ 0 := by exact_mod_cast ((a : ℚ) / b).den_nz
    rw [div_eq_div_iff second first] at whole
    exact_mod_cast whole
  exact nearest_congr ((a : ℚ) / b).den_pos positive cross x

/-! ## Signs -/

/-- The sign of a double, which a zero has as well. -/
def Signed (negative : Bool) : Double → Prop
  | .nan => False
  | .infinite s => s = negative
  | .finite s _ _ _ => s = negative

theorem signed_ofQuotient (negative : Bool) (num : Nat) {den : Nat} (positive : 0 < den) :
    Signed negative (ofQuotient negative num den) := by
  rcases ofQuotient_cases negative num positive with ⟨-, m, q, standard, same, -⟩ | ⟨-, same⟩
  · rw [same]
    rfl
  · rw [same]
    rfl

/-- **There is one nearest double of a sign.** -/
theorem NearestTo.unique {r : ℚ} {x y : Double} {negative : Bool} (first : NearestTo r x) (second : NearestTo r y)
    (signed : Signed negative x) (alike : Signed negative y) : x = y := by
  obtain ⟨units, infinite⟩ := Nearest.unique r.den_pos first second
  cases x with
  | nan => exact first.elim
  | infinite s => exact ((infinite s).1 rfl).symm
  | finite s m q standard =>
      cases y with
      | nan => exact second.elim
      | infinite t => exact (infinite t).2 rfl
      | finite t n p form =>
          obtain rfl : s = negative := signed
          obtain rfl : t = s := alike
          have same : magnitude m q = magnitude n p := by
            rw [← Text.natAbs_withSign t (magnitude m q), Option.some.inj units, Text.natAbs_withSign]
          obtain ⟨rfl, rfl⟩ := magnitude_injective standard form same
          rfl

/-! ## Values that are decided by their size -/

theorem overflow_pos : 0 < overflow := by
  unfold overflow
  generalize 970 = n
  exact Nat.mul_pos (by decide) (Nat.two_pow_pos n)

theorem nearest_ofQuotient (negative : Bool) {a den : Nat} (some : 0 < a) (positive : 0 < den) :
    Nearest (Text.withSign negative a) den (ofQuotient negative a den) := by
  have sign : decide (Text.withSign negative a < 0) = negative := by
    simp only [Text.withSign_lt_zero_iff some, Bool.decide_eq_true]
  have nearest := ofQuotient_nearest (Text.withSign negative a) positive
  rwa [sign, Text.natAbs_withSign] at nearest

theorem nearest_infinite (negative : Bool) {a den : Nat} (large : overflow * den ≤ a) (positive : 0 < den) :
    Nearest (Text.withSign negative a) den (.infinite negative) := by
  have some : 0 < a := Nat.lt_of_lt_of_le (Nat.mul_pos overflow_pos positive) large
  refine ⟨(Text.withSign_lt_zero_iff some negative).symm, ?_⟩
  rwa [Text.natAbs_withSign]

/-- What is at most half a unit is nearest to zero. -/
theorem nearest_zero (negative : Bool) {a den : Nat} (small : 2 * (a * unitsPerOne) ≤ den) (positive : 0 < den) :
    Nearest (Text.withSign negative a) den (.zero negative) := by
  have units : (Text.withSign negative a * unitsPerOne).natAbs = a * unitsPerOne := by
    rw [Text.withSign_mul, Text.natAbs_withSign]
  have here : distance (Text.withSign negative a) den 0 = a * unitsPerOne := by
    rw [distance, Int.zero_mul, Int.zero_sub, Int.natAbs_neg, units]
  have fits : a < overflow * den := by
    have one := Nat.le_mul_of_pos_right a unitsPerOne_pos
    have more := Nat.le_mul_of_pos_left den overflow_pos
    omega
  refine ⟨by rwa [Text.natAbs_withSign], fun y other place => ?_⟩
  rw [magnitude_zero, Text.withSign_zero, here]
  refine ⟨?_, fun _ => .inr rfl⟩
  by_cases zero : other = 0
  · rw [zero, here]
  · -- another double is a whole unit away from zero at least
    have step := Nat.le_mul_of_pos_left den (Int.natAbs_pos.2 zero)
    have apart := Int.natAbs_add_le (other * den - Text.withSign negative a * unitsPerOne)
      (Text.withSign negative a * unitsPerOne)
    rw [Int.sub_add_cancel, Int.natAbs_mul, Int.natAbs_natCast, units] at apart
    rw [distance]
    omega

end Double

namespace Decimal

open Double (overflow unitsPerOne)

variable (d : Decimal)

/-- The number that a decimal denotes. -/
def value : ℚ := Text.withSign d.negative d.coefficient * 10 ^ d.exponent

theorem quotient_pos : 0 < d.quotient.2 := by
  unfold quotient
  split
  · exact Nat.one_pos
  · exact Nat.pow_pos (by decide)

theorem quotient_eq_zero_iff : d.quotient.1 = 0 ↔ d.coefficient = 0 := by
  unfold quotient
  split <;> simp

theorem value_eq_quotient :
    d.value = ((Text.withSign d.negative d.quotient.1 : Int) : ℚ) / (d.quotient.2 : Nat) := by
  obtain ⟨negative, coefficient, exponent⟩ := d
  cases exponent with
  | ofNat e =>
      simp only [value, quotient, ← Text.withSign_mul]
      simp
  | negSucc e =>
      simp only [value, quotient, zpow_negSucc]
      simp [div_eq_mul_inv]

/-- The ceiling stands right above the leading digit. -/
theorem pow_le_quotient (nonzero : d.coefficient ≠ 0) {k : Nat} (high : k < d.ceiling) :
    10 ^ k * d.quotient.2 ≤ d.quotient.1 := by
  obtain ⟨negative, coefficient, exponent⟩ := d
  have lead := pow_digitCount_le (Nat.pos_of_ne_zero nonzero)
  have count := digitCount_pos coefficient
  simp only [ceiling] at high lead
  cases exponent with
  | ofNat e =>
      rw [Int.ofNat_eq_natCast] at high
      calc 10 ^ k * 1 ≤ 10 ^ (digitCount coefficient - 1 + e) := by
            rw [Nat.mul_one]
            exact Nat.pow_le_pow_right (by decide) (by omega)
        _ = 10 ^ (digitCount coefficient - 1) * 10 ^ e := Nat.pow_add ..
        _ ≤ coefficient * 10 ^ e := Nat.mul_le_mul_right _ lead
  | negSucc e =>
      calc 10 ^ k * 10 ^ (e + 1) = 10 ^ (k + (e + 1)) := (Nat.pow_add ..).symm
        _ ≤ 10 ^ (digitCount coefficient - 1) := Nat.pow_le_pow_right (by decide) (by omega)
        _ ≤ coefficient := lead

theorem quotient_le_pow {k : Nat} (low : d.ceiling ≤ -k) : d.quotient.1 * 10 ^ k ≤ d.quotient.2 := by
  obtain ⟨negative, coefficient, exponent⟩ := d
  have lead := lt_pow_digitCount coefficient
  have count := digitCount_pos coefficient
  simp only [ceiling] at low
  cases exponent with
  | ofNat e =>
      rw [Int.ofNat_eq_natCast] at low
      omega
  | negSucc e =>
      calc coefficient * 10 ^ k ≤ 10 ^ digitCount coefficient * 10 ^ k :=
            Nat.mul_le_mul_right _ (Nat.le_of_lt lead)
        _ = 10 ^ (digitCount coefficient + k) := (Nat.pow_add ..).symm
        _ ≤ 10 ^ (e + 1) := Nat.pow_le_pow_right (by decide) (by omega)

/-- A decimal with a high ceiling lies behind the overflow. -/
theorem overflow_le_quotient (nonzero : d.coefficient ≠ 0) (high : overflowCeiling ≤ d.ceiling) :
    overflow * d.quotient.2 ≤ d.quotient.1 := by
  have tens : overflow ≤ 10 ^ 310 := by decide +kernel
  have large := pow_le_quotient d nonzero (k := 310) (Int.lt_of_add_one_le high)
  exact Nat.le_trans (Nat.mul_le_mul_right d.quotient.2 tens) large

/-- A decimal with a low ceiling is at most half a unit. -/
theorem quotient_le_half (low : d.ceiling ≤ underflowCeiling) :
    2 * (d.quotient.1 * unitsPerOne) ≤ d.quotient.2 := by
  have tens : 2 * unitsPerOne ≤ 10 ^ 324 := by decide +kernel
  have small := quotient_le_pow d (k := 324) low
  rw [Nat.mul_left_comm]
  exact Nat.le_trans (Nat.mul_le_mul_left d.quotient.1 tens) small

theorem nearest_toDouble :
    Double.Nearest (Text.withSign d.negative d.quotient.1) d.quotient.2 d.toDouble := by
  have positive := d.quotient_pos
  by_cases zero : d.coefficient = 0
  · rw [toDouble, if_pos zero, (quotient_eq_zero_iff d).2 zero]
    exact Double.nearest_zero d.negative (by simp) positive
  · rw [toDouble, if_neg zero]
    split
    · exact Double.nearest_infinite d.negative (overflow_le_quotient d zero ‹_›) positive
    · split
      · exact Double.nearest_zero d.negative (quotient_le_half d ‹_›) positive
      · have some : 0 < d.quotient.1 := Nat.pos_of_ne_zero (mt (quotient_eq_zero_iff d).1 zero)
        exact Double.nearest_ofQuotient d.negative some positive

theorem signed_toDouble : d.toDouble.Signed d.negative := by
  unfold toDouble
  split
  · rfl
  · split
    · rfl
    · split
      · rfl
      · exact Double.signed_ofQuotient d.negative d.quotient.1 d.quotient_pos

/-- **A decimal goes to the double nearest to its value.** -/
theorem nearestTo_toDouble : d.toDouble.NearestTo d.value := by
  rw [value_eq_quotient, Double.nearestTo_div_iff _ d.quotient_pos]
  exact nearest_toDouble d

end Decimal

/-! ## The value of a numeral -/

namespace Numeral

/-- The number that a numeral denotes: its digits before and behind the point, and its exponent. -/
def value (n : Numeral) : ℚ :=
  let fraction := n.fraction.getD []
  (if n.negative then -1 else 1) *
    (Text.digitsValue n.whole + Text.digitsValue fraction / 10 ^ fraction.length) * 10 ^ n.exponent.getD 0

theorem value_decimal (n : Numeral) : n.decimal.value = n.value := by
  have sign (k : Nat) : ((Text.withSign n.negative k : Int) : ℚ) = (if n.negative then -1 else 1) * k := by
    cases n.negative <;> simp [Text.withSign]
  have ten : (10 : ℚ) ≠ 0 := by norm_num
  rw [Decimal.value, decimal, value, sign, Text.digitsValue_append, zpow_sub₀ ten, zpow_natCast]
  push_cast
  field_simp

end Numeral

end TemplateBuiltins
