/-
# Proofs.Number.Threshold -- from which doubles on places are shown

A decimal reaches a power of ten if its ceiling is above the exponent (`Decimal.pow_le_size_iff`).
Whether the shortest decimal of a double reaches a power of ten is decided by the double itself,
compared with the double nearest to that power (`Decimal.IsShortest.pow_le_size_iff`): the numbers
that are rounded to either of two doubles are kept apart by them, and a power of ten has one
digit, so that the double nearest to it is written as that power.

So template text shows places from the double nearest to a millionth on (`Number.millionth`),
which is a little less than a millionth, and up to 10 ^ 21, which is a double itself
(`Double.within_template_iff`).
-/
import Mathlib.Tactic.NormNum
import TemplateBuiltins.Number.Layout
import TemplateBuiltins.Proofs.Number.Fewest

set_option autoImplicit false

namespace TemplateBuiltins

namespace Decimal

variable {d e : Decimal}

/-- The leading digit of a decimal stands below its ceiling. -/
theorem pow_le_size_iff (some : 0 < d.coefficient) (k : Int) : (10 : ℚ) ^ k ≤ d.size ↔ k < d.ceiling := by
  have count := digitCount_pos d.coefficient
  have low : (10 : ℚ) ^ (d.ceiling - 1) ≤ d.size := by
    have least : ((10 ^ (digitCount d.coefficient - 1) : Nat) : ℚ) ≤ d.coefficient :=
      Nat.cast_le.2 (pow_digitCount_le some)
    calc (10 : ℚ) ^ (d.ceiling - 1) = (10 ^ (digitCount d.coefficient - 1) : Nat) * 10 ^ d.exponent := by
          push_cast
          rw [← zpow_natCast, ← zpow_add₀ (by norm_num), ceiling]
          congr 1
          omega
      _ ≤ d.size := mul_le_mul_of_nonneg_right least (ten_zpow_pos _).le
  have high : d.size < 10 ^ d.ceiling := by
    have most : (d.coefficient : ℚ) < (10 ^ digitCount d.coefficient : Nat) :=
      Nat.cast_lt.2 (lt_pow_digitCount d.coefficient)
    calc d.size < (10 ^ digitCount d.coefficient : Nat) * 10 ^ d.exponent :=
          mul_lt_mul_of_pos_right most (ten_zpow_pos _)
      _ = 10 ^ d.ceiling := by
          push_cast
          rw [← zpow_natCast, ← zpow_add₀ (by norm_num), ceiling]
  constructor
  · intro reached
    by_contra beyond
    have := zpow_le_zpow_right₀ (show (1 : ℚ) ≤ 10 by norm_num) (Int.not_lt.1 beyond)
    linarith
  · intro below
    exact le_trans (zpow_le_zpow_right₀ (by norm_num) (Int.le_sub_one_of_lt below)) low

/-- A decimal of one digit that is less than a power of ten is at most nine tenths of it. -/
theorem size_le_of_one_digit (one : digitCount d.coefficient ≤ 1) {k : Int} (less : d.size < 10 ^ k) :
    d.size ≤ 9 / 10 * 10 ^ k := by
  rcases Nat.eq_zero_or_pos d.coefficient with zero | some
  · rw [size, zero, Nat.cast_zero, zero_mul]
    exact mul_nonneg (by norm_num) (ten_zpow_pos k).le
  · have under : d.exponent < k := by
      by_contra beyond
      have : (1 : ℚ) ≤ d.coefficient := by exact_mod_cast some
      have := zpow_le_zpow_right₀ (show (1 : ℚ) ≤ 10 by norm_num) (Int.not_lt.1 beyond)
      rw [size] at less
      nlinarith [ten_zpow_pos d.exponent]
    have small : d.coefficient ≤ 9 := by
      have := lt_of_lt_of_le (lt_pow_digitCount d.coefficient) (Nat.pow_le_pow_right (show 0 < 10 by decide) one)
      omega
    calc d.size ≤ 9 * 10 ^ d.exponent :=
          mul_le_mul_of_nonneg_right (by exact_mod_cast small) (ten_zpow_pos _).le
      _ ≤ 9 * 10 ^ (k - 1) :=
          mul_le_mul_of_nonneg_left (zpow_le_zpow_right₀ (by norm_num) (Int.le_sub_one_of_lt under)) (by norm_num)
      _ = 9 / 10 * 10 ^ k := by
          rw [zpow_sub_one₀ (by norm_num)]
          ring

/-- **The shortest decimal of a double reaches a power of ten exactly if the double reaches the double
nearest to that power.** -/
theorem IsShortest.pow_le_size_iff {negative : Bool} {m n : Nat} {q p k : Int} {standard : Double.Standard m q}
    {form : Double.Standard n p} (shortest : d.IsShortest (.finite negative m q standard))
    (power : toDouble ⟨negative, 1, k⟩ = .finite negative n p form)
    (close : 20 * |(10 : ℚ) ^ k - Double.magnitude n p / Double.unitsPerOne| < 10 ^ k) :
    (10 : ℚ) ^ k ≤ d.size ↔
      (Double.magnitude n p / Double.unitsPerOne : ℚ) ≤ Double.magnitude m q / Double.unitsPerOne := by
  have size : size ⟨negative, 1, k⟩ = 10 ^ k := by simp [size]
  have decimal := d.nearestTo_toDouble
  rw [shortest.reads, value_eq_size, negative_of_toDouble shortest.reads] at decimal
  have ten := nearestTo_toDouble ⟨negative, 1, k⟩
  rw [power, value_eq_size, size] at ten
  have here := Double.nearestTo_self (Double.value?_finite negative standard)
  have there := Double.nearestTo_self (Double.value?_finite negative form)
  -- a number that is rounded to both doubles shows them to be the same
  have same {r : ℚ} (first : (Double.finite negative m q standard).NearestTo ((if negative then -1 else 1) * r))
      (second : (Double.finite negative n p form).NearestTo ((if negative then -1 else 1) * r)) :
      Double.finite negative m q standard = .finite negative n p form := first.unique second rfl rfl
  constructor
  · intro reached
    by_contra less
    rw [not_le] at less
    apply ne_of_lt less
    rcases le_total (Double.magnitude n p / Double.unitsPerOne : ℚ) d.size with below | above
    · cases same (decimal.between_size (Set.mem_uIcc.2 (.inr ⟨less.le, below⟩))) there
      rfl
    · cases same decimal (ten.between_size (Set.mem_uIcc.2 (.inl ⟨reached, above⟩)))
      rfl
  · intro reached
    by_contra less
    rw [not_le] at less
    have equal : Double.finite negative m q standard = .finite negative n p form := by
      rcases le_total ((10 : ℚ) ^ k) (Double.magnitude m q / Double.unitsPerOne) with below | above
      · exact same (decimal.between_size (Set.mem_uIcc.2 (.inl ⟨less.le, below⟩))) ten
      · exact same here (ten.between_size (Set.mem_uIcc.2 (.inr ⟨reached, above⟩)))
    -- the power of ten itself reads as the double, so its shortest decimal has one digit
    rw [equal] at shortest
    have one : digitCount 1 = 1 := digitCount_of_lt (by decide)
    have count : digitCount d.coefficient ≤ 1 := one ▸ shortest.fewest _ power
    have few := size_le_of_one_digit count less
    have nearest := shortest.nearest ⟨negative, 1, k⟩ _ power
      (one.trans (Nat.le_antisymm (digitCount_pos d.coefficient) count)) (Double.value?_finite negative form)
    have mine := d.abs_value_sub (Double.magnitude n p / Double.unitsPerOne)
    have its := abs_value_sub ⟨negative, 1, k⟩ (Double.magnitude n p / Double.unitsPerOne)
    rw [negative_of_toDouble shortest.reads] at mine
    rw [mine, its, size] at nearest
    have low := neg_abs_le (d.size - Double.magnitude n p / Double.unitsPerOne)
    have high := le_abs_self ((10 : ℚ) ^ k - Double.magnitude n p / Double.unitsPerOne)
    linarith

end Decimal

namespace Number

/-- The double nearest to a millionth, as a number: from there on numbers are written by their places. -/
def millionth : ℚ := (Decimal.toDouble ⟨false, 1, -6⟩).value?.getD 0

theorem toDouble_millionth (negative : Bool) :
    Decimal.toDouble ⟨negative, 1, -6⟩ = .finite negative 4722366482869645 (-72) (by decide) := by
  cases negative <;> decide +kernel

theorem millionth_eq : millionth = Double.magnitude 4722366482869645 (-72) / Double.unitsPerOne := by
  rw [millionth, toDouble_millionth, Double.value?_finite, Option.getD_some]
  exact one_mul _

theorem millionth_eq_div : millionth = 4722366482869645 / 2 ^ 72 := by
  obtain ⟨rest, total⟩ : ∃ rest, 1074 = 72 + rest := ⟨1002, rfl⟩
  have place : (-72 : Int) = Double.minExponent + rest := by
    rw [Double.minExponent]
    omega
  have some : ((2 ^ rest : Nat) : ℚ) ≠ 0 := Nat.cast_ne_zero.2 (Nat.two_pow_pos rest).ne'
  rw [millionth_eq, place, Double.magnitude_eq, Double.unitsPerOne_eq, total, Nat.pow_add, Nat.cast_mul, Nat.cast_mul,
    mul_div_mul_right _ _ some]
  norm_num

theorem toDouble_limit (negative : Bool) :
    Decimal.toDouble ⟨negative, 1, 21⟩ = .finite negative (5 ^ 21 * 2 ^ 4) 17 (by decide) := by
  cases negative <;> decide +kernel

theorem limit_eq : (Double.magnitude (5 ^ 21 * 2 ^ 4) 17 / Double.unitsPerOne : ℚ) = 10 ^ 21 := by
  have count : Double.magnitude (5 ^ 21 * 2 ^ 4) 17 = 10 ^ 21 * Double.unitsPerOne := by decide +kernel
  rw [count, Nat.cast_mul, mul_div_cancel_right₀ _ Double.unitsPerOne_cast_pos.ne']
  norm_num

end Number

namespace Double

theorem coefficient_shortest_pos (negative : Bool) {m : Nat} {q : Int} (standard : Standard m q) (nonzero : m ≠ 0) :
    0 < (shortest negative m q).coefficient := by
  apply Nat.pos_of_ne_zero
  intro none
  have reads := toDouble_shortest negative standard nonzero
  rw [Decimal.toDouble, if_pos none] at reads
  exact nonzero (Double.finite.inj reads).2.1.symm

/-- **The places that template text shows are those from the double nearest to a millionth up to the limit of
exact texts.** -/
theorem within_template_iff (negative : Bool) {m : Nat} {q : Int} (standard : Standard m q) (nonzero : m ≠ 0) :
    (Layout.template.lowest ≤ (shortest negative m q).ceiling - 1 ∧
        (shortest negative m q).ceiling - 1 < Layout.template.beyond) ↔
      Number.millionth ≤ magnitude m q / unitsPerOne ∧ (magnitude m q / unitsPerOne : ℚ) < 10 ^ 21 := by
  have some := coefficient_shortest_pos negative standard nonzero
  have shortest := isShortest_shortest negative standard nonzero
  have low := shortest.pow_le_size_iff (Number.toDouble_millionth negative) (by
    rw [← Number.millionth_eq, Number.millionth_eq_div]
    norm_num [abs_lt])
  have high := shortest.pow_le_size_iff (Number.toDouble_limit negative) (by
    rw [Number.limit_eq]
    norm_num)
  rw [← Number.millionth_eq, Decimal.pow_le_size_iff some] at low
  rw [Number.limit_eq, Decimal.pow_le_size_iff some] at high
  have under := not_congr high
  rw [not_lt, not_le] at under
  have lowest : Layout.template.lowest = -6 := rfl
  have beyond : Layout.template.beyond = 21 := rfl
  rw [← low, ← under, lowest, beyond]
  omega

end Double

end TemplateBuiltins
