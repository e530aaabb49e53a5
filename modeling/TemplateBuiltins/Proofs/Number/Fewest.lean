/-
# Proofs.Number.Fewest -- the shortest decimal has the fewest digits

For each number of digits only two decimals come into question, the neighbours of the double
(`candidatesOf`).  No other decimal can do better: between any decimal and the double stands one of
the neighbours with as many digits (`exists_neighbour_between`), and if the decimal reads as the
double, so does what stands between them.  Of seventeen digits one candidate always reads as
the double, since it differs from it by less than half of what the next double does
(`exists_candidate_seventeen`).

So the search, which tries few digits before many and the nearer neighbour before the other, ends
with a decimal that has the fewest digits of all that read as the double, and is the nearest of those
with as few (`Double.isShortest_shortest`).
-/
import Mathlib.Tactic.Positivity
import TemplateBuiltins.Proofs.Number.Interval

set_option autoImplicit false

namespace TemplateBuiltins

open Double (unitsPerOne unitsPerOne_pos unitsPerOne_cast_pos)

/-! ## The place of the leading digit -/

theorem abs_signed (negative : Bool) (a : ℚ) : |(if negative then -1 else 1) * a| = |a| := by
  cases negative <;> simp

theorem signed_lt_zero_iff (negative : Bool) {a : ℚ} (positive : 0 < a) :
    (if negative then -1 else 1) * a < 0 ↔ negative = true := by
  cases negative
  · simpa using positive.le
  · simpa using positive

theorem ten_zpow_pos (k : Int) : (0 : ℚ) < 10 ^ k := zpow_pos (by norm_num) k

theorem leadingExponent_bounds {units : Nat} (positive : 0 < units) :
    (10 : ℚ) ^ leadingExponent units ≤ units / unitsPerOne ∧
      (units / unitsPerOne : ℚ) < 10 ^ (leadingExponent units + 1) := by
  have one := unitsPerOne_cast_pos
  have tens : (0 : ℚ) < 10 ^ 324 := by positivity
  have fine : unitsPerOne ≤ 10 ^ 324 := by decide +kernel
  rw [Double.leadingExponent_eq]
  generalize whole : units * 10 ^ 324 / unitsPerOne = n
  have some : 0 < n := by
    rw [← whole]
    exact Nat.div_pos (le_trans fine (Nat.le_mul_of_pos_left _ positive)) unitsPerOne_pos
  have low : (n : ℚ) ≤ units / unitsPerOne * 10 ^ 324 := by
    rw [div_mul_eq_mul_div, le_div_iff₀ one, ← whole]
    exact_mod_cast Nat.div_mul_le_self _ _
  have high : (units / unitsPerOne * 10 ^ 324 : ℚ) < n + 1 := by
    rw [div_mul_eq_mul_div, div_lt_iff₀ one, ← whole]
    exact_mod_cast Nat.lt_mul_of_div_lt (Nat.lt_succ_self _) unitsPerOne_pos
  have count := Decimal.digitCount_pos n
  have least : ((10 ^ (Decimal.digitCount n - 1) : Nat) : ℚ) ≤ n := Nat.cast_le.2 (Decimal.pow_digitCount_le some)
  have most : ((n + 1 : Nat) : ℚ) ≤ (10 ^ Decimal.digitCount n : Nat) := Nat.cast_le.2 (Decimal.lt_pow_digitCount n)
  have split (a : Nat) : (10 : ℚ) ^ ((a : Int) - 324) = 10 ^ a / 10 ^ 324 :=
    zpow_natCast_sub_natCast₀ (by norm_num) a 324
  push_cast at least most
  generalize (10 : ℚ) ^ 324 = scale at tens low high split
  constructor
  · rw [show (Decimal.digitCount n : Int) - 325 = ((Decimal.digitCount n - 1 : Nat) : Int) - 324 by omega, split,
      div_le_iff₀ tens]
    linarith
  · rw [show (Decimal.digitCount n : Int) - 325 + 1 = (Decimal.digitCount n : Nat) - 324 by omega, split,
      lt_div_iff₀ tens]
    linarith

/-! ## Neighbours -/

section Neighbours

variable (units : Nat) (k : Int)

theorem overTenTo_pos : 0 < (overTenTo units k).2 := by
  cases k with
  | ofNat k =>
      rw [Int.ofNat_eq_natCast, Double.overTenTo_natCast]
      have tens : 0 < 10 ^ k := Nat.pow_pos (by decide)
      exact Nat.mul_pos unitsPerOne_pos tens
  | negSucc k =>
      rw [Double.overTenTo_negSucc]
      dsimp only
      exact unitsPerOne_pos

theorem overTenTo_cast :
    ((overTenTo units k).1 : ℚ) / (overTenTo units k).2 * 10 ^ k = units / unitsPerOne := by
  have one := unitsPerOne_cast_pos.ne'
  cases k with
  | ofNat k =>
      rw [Int.ofNat_eq_natCast, Double.overTenTo_natCast]
      push_cast
      rw [zpow_natCast]
      field_simp
  | negSucc k =>
      rw [Double.overTenTo_negSucc, zpow_negSucc]
      push_cast
      field_simp

theorem gap_cast (a b : Nat) : (gap a b : ℚ) = |(a : ℚ) - b| := by
  rcases Nat.le_total a b with less | more
  · rw [gap, Nat.sub_eq_zero_of_le less, Nat.zero_add, Nat.cast_sub less, abs_sub_comm,
      abs_of_nonneg (sub_nonneg.2 (Nat.cast_le.2 less))]
  · rw [gap, Nat.sub_eq_zero_of_le more, Nat.add_zero, Nat.cast_sub more,
      abs_of_nonneg (sub_nonneg.2 (Nat.cast_le.2 more))]

/-- How far a multiple of a power of ten is from some units. -/
theorem abs_sub_eq_gap (c : Nat) :
    |(c : ℚ) * 10 ^ k - units / unitsPerOne| =
      gap (c * (overTenTo units k).2) (overTenTo units k).1 * (10 ^ k / (overTenTo units k).2) := by
  have den : (0 : ℚ) < (overTenTo units k).2 := Nat.cast_pos.2 (overTenTo_pos units k)
  rw [gap_cast, ← abs_of_pos (div_pos (ten_zpow_pos k) den), ← abs_mul, ← overTenTo_cast units k]
  congr 1
  push_cast
  field_simp

/-- The multiple below, the first of the two neighbours in order. -/
def multipleBelow : Nat := (overTenTo units k).1 / (overTenTo units k).2

theorem multipleBelow_bounds :
    (multipleBelow units k : ℚ) * 10 ^ k ≤ units / unitsPerOne ∧
      (units / unitsPerOne : ℚ) < (multipleBelow units k + 1 : Nat) * 10 ^ k := by
  have den : (0 : ℚ) < (overTenTo units k).2 := Nat.cast_pos.2 (overTenTo_pos units k)
  rw [← overTenTo_cast units k, mul_le_mul_iff_left₀ (ten_zpow_pos k), mul_lt_mul_iff_left₀ (ten_zpow_pos k),
    le_div_iff₀ den, div_lt_iff₀ den]
  constructor
  · exact_mod_cast Nat.div_mul_le_self _ _
  · exact_mod_cast Nat.lt_mul_of_div_lt (Nat.lt_succ_self _) (overTenTo_pos units k)

/-- The nearest multiple and the other one beside the number. -/
theorem neighbours_eq :
    ∃ near other, neighbours units k = [near, other] ∧
      (near = multipleBelow units k ∧ other = multipleBelow units k + 1 ∨
        near = multipleBelow units k + 1 ∧ other = multipleBelow units k) ∧
      2 * |(near : ℚ) * 10 ^ k - units / unitsPerOne| ≤ 10 ^ k ∧
      |(near : ℚ) * 10 ^ k - units / unitsPerOne| ≤ |(other : ℚ) * 10 ^ k - units / unitsPerOne| := by
  have positive := overTenTo_pos units k
  have den : (0 : ℚ) < (overTenTo units k).2 := Nat.cast_pos.2 positive
  have step : (0 : ℚ) < 10 ^ k / (overTenTo units k).2 := div_pos (ten_zpow_pos k) den
  refine ⟨_, _, rfl, ?_, ?_, ?_⟩
  · have between := roundQuotient_between (overTenTo units k).1 (overTenTo units k).2
    rw [multipleBelow]
    split <;> omega
  · have half : ((2 * gap _ _ : Nat) : ℚ) ≤ _ := Nat.cast_le.2 (roundQuotient_half (overTenTo units k).1 positive).1
    rw [abs_sub_eq_gap, ← mul_assoc, mul_div_assoc', div_le_iff₀ den, mul_comm]
    push_cast at half
    exact mul_le_mul_of_nonneg_left half (ten_zpow_pos k).le
  · rw [abs_sub_eq_gap, abs_sub_eq_gap, mul_le_mul_iff_left₀ step, Nat.cast_le]
    exact (roundQuotient_nearest _ positive _).1

end Neighbours

/-! ## Few digits -/

/-- Between a number and a decimal stands a neighbour with no more digits than the decimal. -/
theorem exists_neighbour_between {units digits : Nat} (positive : 0 < units) (d : Decimal)
    (few : Decimal.digitCount d.coefficient ≤ digits) :
    ∃ c ∈ neighbours units (leadingExponent units - digits + 1),
      (c : ℚ) * 10 ^ (leadingExponent units - digits + 1) ∈ Set.uIcc d.size (units / unitsPerOne : ℚ) := by
  have lead := (leadingExponent_bounds positive).1
  generalize leadingExponent units = l at lead ⊢
  generalize place : l - (digits : Int) + 1 = k
  have step := ten_zpow_pos k
  obtain ⟨low, high⟩ := multipleBelow_bounds units k
  obtain ⟨near, other, list, either, -⟩ := neighbours_eq units k
  generalize multipleBelow units k = below at low high either
  have members : below ∈ neighbours units k ∧ below + 1 ∈ neighbours units k := by
    rw [list]
    rcases either with ⟨rfl, rfl⟩ | ⟨rfl, rfl⟩ <;> simp
  rcases Int.lt_or_le d.exponent k with fine | coarse
  · -- the decimal has its leading digit below that of the number, which the lower neighbour shares
    refine ⟨below, members.1, Set.mem_uIcc.2 (.inl ⟨?_, low⟩)⟩
    have one := Decimal.digitCount_pos d.coefficient
    have least : (10 : ℚ) ^ l = (10 ^ (digits - 1) : Nat) * 10 ^ k := by
      push_cast
      rw [← zpow_natCast, ← zpow_add₀ (by norm_num)]
      congr 1
      omega
    have power : 10 ^ (digits - 1) ≤ below := by
      rw [least] at lead
      have := lt_of_mul_lt_mul_right (lt_of_le_of_lt lead high) step.le
      exact Nat.le_of_lt_succ (Nat.cast_lt.1 this)
    have short : (d.coefficient : ℚ) ≤ 10 ^ digits := by
      have := le_trans (Decimal.lt_pow_digitCount d.coefficient).le (Nat.pow_le_pow_right (by decide) few)
      exact_mod_cast this
    calc d.size ≤ 10 ^ digits * 10 ^ d.exponent := mul_le_mul_of_nonneg_right short (ten_zpow_pos _).le
      _ = 10 ^ (digits + d.exponent) := by rw [zpow_add₀ (by norm_num), zpow_natCast]
      _ ≤ 10 ^ l := zpow_le_zpow_right₀ (by norm_num) (by omega)
      _ = (10 ^ (digits - 1) : Nat) * 10 ^ k := least
      _ ≤ below * 10 ^ k := mul_le_mul_of_nonneg_right (Nat.cast_le.2 power) step.le
  · -- the decimal is a multiple itself
    obtain ⟨zeros, exponent⟩ := Int.eq_ofNat_of_zero_le (Int.sub_nonneg.2 coarse)
    have multiple : d.size = (d.coefficient * 10 ^ zeros : Nat) * 10 ^ k := by
      rw [Decimal.size, show d.exponent = zeros + k by omega, zpow_add₀ (by norm_num), zpow_natCast]
      push_cast
      ring
    rcases Nat.lt_or_ge below (d.coefficient * 10 ^ zeros) with above | under
    · refine ⟨below + 1, members.2, Set.mem_uIcc.2 (.inr ⟨high.le, ?_⟩)⟩
      rw [multiple]
      exact mul_le_mul_of_nonneg_right (Nat.cast_le.2 above) step.le
    · refine ⟨below, members.1, Set.mem_uIcc.2 (.inl ⟨?_, low⟩)⟩
      rw [multiple]
      exact mul_le_mul_of_nonneg_right (Nat.cast_le.2 under) step.le

namespace Double

variable {r v : ℚ} {x : Double}

theorem abs_mul_le_overflow (value : x.value? = some v) : |v| * (2 ^ 54 + 1) ≤ overflow * 2 ^ 54 := by
  have one := unitsPerOne_cast_pos
  obtain ⟨units, place, rfl⟩ := exists_units?_of_value? value
  rw [abs_div, Nat.abs_cast, div_mul_eq_mul_div, div_le_iff₀ one, ← Int.cast_abs, Int.abs_eq_natAbs]
  obtain ⟨negative, m, q, standard, rfl, rfl⟩ := exists_finite_of_units? place
  have greatest := magnitude_le_greatest standard 2045 standard.2.2.1
  have limit := overflow_units
  rw [Text.natAbs_withSign]
  have bound : magnitude m q * (2 ^ 54 + 1) ≤ overflow * unitsPerOne * 2 ^ 54 :=
    calc magnitude m q * (2 ^ 54 + 1) ≤ (2 ^ 53 - 1) * 2 ^ 2045 * (2 ^ 54 + 1) := Nat.mul_le_mul_right _ greatest
      _ = (2 ^ 53 - 1) * (2 ^ 54 + 1) * 2 ^ 2045 := Nat.mul_right_comm _ _ _
      _ ≤ (2 ^ 54 - 1) * 2 ^ 53 * 2 ^ 2045 := Nat.mul_le_mul_right _ (by decide)
      _ = 2 * (overflow * unitsPerOne) * 2 ^ 53 := by rw [limit, Nat.mul_right_comm]
      _ = overflow * unitsPerOne * 2 ^ 54 := by rw [Nat.mul_comm 2, Nat.mul_assoc, ← Nat.pow_succ']
  rw [mul_right_comm]
  exact_mod_cast bound

/-- What differs from a double by a 2 ^ 54th part of it is nearest to it. -/
theorem nearestTo_of_close (value : x.value? = some v) (close : |r - v| * 2 ^ 54 < |v|) : x.NearestTo r := by
  have bound := abs_mul_le_overflow value
  obtain ⟨negative, m, q, standard, rfl⟩ := exists_finite_of_value? value
  refine (nearestTo_finite_iff value).2 ⟨?_, fun y w given => ?_⟩
  · have size := abs_sub_abs_le_abs_sub r v
    linarith
  · by_cases same : w = v
    · rw [same]
      exact ⟨le_refl _, fun _ => .inl rfl⟩
    · have apart := abs_le_gap value given same
      have around := abs_sub_le w r v
      rw [abs_sub_comm v r]
      exact ⟨by linarith, fun equal => by linarith⟩

end Double

/-! ## The shortest decimal -/

theorem findSome?_range_eq_some {α : Type} {f : Nat → Option α} {count : Nat} {a : α}
    (found : (List.range count).findSome? f = some a) :
    ∃ n < count, f n = some a ∧ ∀ k < n, f k = none := by
  induction count with
  | zero => cases found
  | succ count ih =>
      rw [List.range_succ, List.findSome?_append] at found
      cases before : (List.range count).findSome? f with
      | some b =>
          rw [before, Option.some_or] at found
          obtain ⟨n, small, here, first⟩ := ih (before.trans found)
          exact ⟨n, Nat.lt_succ_of_lt small, here, first⟩
      | none =>
          rw [before, Option.none_or, List.findSome?_singleton] at found
          refine ⟨count, Nat.lt_succ_self count, found, fun k less => ?_⟩
          exact List.findSome?_eq_none_iff.1 before k (List.mem_range.2 less)

namespace Decimal

/-- The decimal is the shortest one that reads as the double: none with fewer digits does, and none with as
many digits that does is nearer to it. -/
structure IsShortest (d : Decimal) (x : Double) : Prop where
  reads : d.toDouble = x
  fewest : ∀ e : Decimal, e.toDouble = x → digitCount d.coefficient ≤ digitCount e.coefficient
  nearest : ∀ (e : Decimal) (v : ℚ), e.toDouble = x → digitCount e.coefficient = digitCount d.coefficient →
    x.value? = some v → |d.value - v| ≤ |e.value - v|

theorem abs_value_sub (d : Decimal) (a : ℚ) :
    |d.value - (if d.negative then -1 else 1) * a| = |d.size - a| := by
  rw [value_eq_size, ← mul_sub, abs_signed]

theorem size_shift (d : Decimal) (zero : 0 < d.coefficient ∧ d.coefficient % 10 = 0) :
    size ⟨d.negative, d.coefficient / 10, d.exponent + 1⟩ = d.size := by
  have whole : ((d.coefficient / 10 : Nat) : ℚ) * 10 = d.coefficient := by
    exact_mod_cast Nat.div_mul_cancel (Nat.dvd_of_mod_eq_zero zero.2)
  rw [size, size, zpow_add_one₀ (by norm_num), mul_comm ((10 : ℚ) ^ d.exponent), ← mul_assoc, whole]

theorem size_strip (d : Decimal) : d.strip.size = d.size := by
  fun_induction strip d with
  | case1 d zero ih => exact ih.trans (size_shift d zero)
  | case2 d => rfl

theorem coefficient_strip_le (d : Decimal) : d.strip.coefficient ≤ d.coefficient := by
  fun_induction strip d with
  | case1 d zero ih => exact le_trans ih (Nat.div_le_self _ _)
  | case2 d => exact le_refl _

/-- Up to a power of ten a coefficient has no more digits than that power has zeros. -/
theorem digitCount_strip_le {d : Decimal} {digits : Nat} (some : 0 < digits) (small : d.coefficient ≤ 10 ^ digits) :
    digitCount d.strip.coefficient ≤ digits := by
  have of_lt {e : Decimal} (small : e.coefficient < 10 ^ digits) : digitCount e.strip.coefficient ≤ digits := by
    rcases Nat.eq_zero_or_pos e.strip.coefficient with zero | positive
    · rw [zero, digitCount_of_lt (by decide)]
      exact some
    · exact digitCount_le positive (lt_of_le_of_lt e.coefficient_strip_le small)
  rcases Nat.lt_or_eq_of_le small with less | power
  · exact of_lt less
  · have tens : d.coefficient = 10 ^ (digits - 1) * 10 := by
      rw [power, ← Nat.pow_succ, Nat.succ_eq_add_one, Nat.sub_add_cancel some]
    have positive : 0 < 10 ^ (digits - 1) := Nat.pow_pos (by decide)
    rw [strip, if_pos (by omega)]
    apply of_lt
    show d.coefficient / 10 < _
    rw [tens, Nat.mul_div_cancel _ (by decide)]
    exact Nat.pow_lt_pow_right (by decide) (by omega)

end Decimal

namespace Double

section Candidates

variable {negative : Bool} {m : Nat} {q : Int} (standard : Standard m q)

/-- The candidates of so many digits for a double. -/
abbrev candidatesOf (negative : Bool) (m : Nat) (q : Int) (digits : Nat) : List Decimal :=
  candidates negative (magnitude m q) (leadingExponent (magnitude m q)) digits

theorem mem_candidatesOf {digits : Nat} {d : Decimal} :
    d ∈ candidatesOf negative m q digits ↔
      ∃ c ∈ neighbours (magnitude m q) (leadingExponent (magnitude m q) - digits + 1),
        ⟨negative, c, leadingExponent (magnitude m q) - digits + 1⟩ = d := List.mem_map

/-- For each decimal that reads as a double there is a candidate of as many digits that does and is no
farther from the double. -/
theorem exists_candidate {e : Decimal} {digits : Nat} (positive : 0 < magnitude m q)
    (reads : e.toDouble = .finite negative m q standard) (few : Decimal.digitCount e.coefficient ≤ digits) :
    ∃ d ∈ candidatesOf negative m q digits, d.toDouble = .finite negative m q standard ∧
      |d.size - magnitude m q / unitsPerOne| ≤ |e.size - magnitude m q / unitsPerOne| := by
  obtain ⟨c, near, between⟩ := exists_neighbour_between positive e few
  refine ⟨_, mem_candidatesOf.2 ⟨c, near, rfl⟩, Decimal.toDouble_of_between reads rfl between, ?_⟩
  have split := abs_add_of_mem_uIcc between
  have rest := abs_nonneg ((c : ℚ) * 10 ^ (leadingExponent (magnitude m q) - (digits : Int) + 1) - e.size)
  rw [abs_sub_comm, abs_sub_comm e.size, Decimal.size]
  linarith

theorem coefficient_le_of_mem_candidatesOf {digits : Nat} {d : Decimal} (positive : 0 < magnitude m q)
    (inside : d ∈ candidatesOf negative m q digits) : d.coefficient ≤ 10 ^ digits := by
  obtain ⟨c, near, rfl⟩ := mem_candidatesOf.1 inside
  have lead := (leadingExponent_bounds positive).2
  obtain ⟨nearest, other, list, either, -⟩ :=
    neighbours_eq (magnitude m q) (leadingExponent (magnitude m q) - digits + 1)
  have low := (multipleBelow_bounds (magnitude m q) (leadingExponent (magnitude m q) - digits + 1)).1
  generalize multipleBelow (magnitude m q) _ = below at low either
  have less : (below : ℚ) < (10 ^ digits : Nat) := by
    have power : (10 : ℚ) ^ (leadingExponent (magnitude m q) + 1) =
        (10 ^ digits : Nat) * 10 ^ (leadingExponent (magnitude m q) - (digits : Int) + 1) := by
      push_cast
      rw [← zpow_natCast, ← zpow_add₀ (by norm_num)]
      congr 1
      omega
    rw [power] at lead
    exact lt_of_mul_lt_mul_right (lt_of_le_of_lt low lead) (ten_zpow_pos _).le
  have bound : below < 10 ^ digits := Nat.cast_lt.1 less
  rw [list] at near
  show c ≤ 10 ^ digits
  simp only [List.mem_cons, List.not_mem_nil, or_false] at near
  omega

/-- One of the candidates of seventeen digits reads as the double. -/
theorem exists_candidate_seventeen (positive : 0 < magnitude m q) :
    ∃ d ∈ candidatesOf negative m q 17, d.toDouble = .finite negative m q standard := by
  have lead := (leadingExponent_bounds positive).1
  obtain ⟨near, other, list, -, half, -⟩ :=
    neighbours_eq (magnitude m q) (leadingExponent (magnitude m q) - (17 : Nat) + 1)
  refine ⟨_, mem_candidatesOf.2 ⟨near, by rw [list]; exact List.mem_cons_self, rfl⟩, ?_⟩
  generalize place : leadingExponent (magnitude m q) - ((17 : Nat) : Int) + 1 = k at half ⊢
  have step := ten_zpow_pos k
  have power : (10 : ℚ) ^ leadingExponent (magnitude m q) = 10 ^ k * 10 ^ 16 := by
    rw [← zpow_natCast, ← zpow_add₀ (by norm_num)]
    congr 1
    omega
  have nearest : (finite negative m q standard).NearestTo (Decimal.value ⟨negative, near, k⟩) := by
    apply nearestTo_of_close (value?_finite negative standard)
    rw [abs_signed, abs_of_nonneg (div_nonneg (Nat.cast_nonneg _) unitsPerOne_cast_pos.le), Decimal.abs_value_sub,
      Decimal.size]
    rw [power] at lead
    linarith
  exact (Decimal.nearestTo_toDouble _).unique nearest (Decimal.signed_toDouble _) rfl

/-- The first candidate that reads as the double is the nearest of those that do. -/
theorem find?_candidatesOf {digits : Nat} {d e : Decimal} {x : Double}
    (found : (candidatesOf negative m q digits).find? (fun d => d.toDouble == x) = some d)
    (inside : e ∈ candidatesOf negative m q digits) (reads : e.toDouble = x) :
    |d.size - magnitude m q / unitsPerOne| ≤ |e.size - magnitude m q / unitsPerOne| := by
  obtain ⟨near, other, list, -, -, nearer⟩ :=
    neighbours_eq (magnitude m q) (leadingExponent (magnitude m q) - digits + 1)
  simp only [candidatesOf, candidates, list, List.map_cons, List.map_nil, List.mem_cons, List.not_mem_nil,
    or_false] at found inside
  by_cases first : Decimal.toDouble ⟨negative, near, leadingExponent (magnitude m q) - digits + 1⟩ = x
  · rw [List.find?_cons_of_pos (by rw [first]; exact beq_self_eq_true x), Option.some.injEq] at found
    subst found
    rcases inside with rfl | rfl
    · exact le_refl _
    · exact nearer
  · rw [List.find?_cons_of_neg (by simpa using first)] at found
    rcases inside with rfl | rfl
    · exact absurd reads first
    · rw [List.find?_cons_of_pos (by rw [reads]; exact beq_self_eq_true x), Option.some.injEq] at found
      rw [found]

end Candidates

/-- **The shortest decimal of a double is the shortest that reads as it.** -/
theorem isShortest_shortest (negative : Bool) {m : Nat} {q : Int} (standard : Standard m q) (nonzero : m ≠ 0) :
    (shortest negative m q).IsShortest (.finite negative m q standard) := by
  have positive : 0 < magnitude m q := Nat.mul_pos (Nat.pos_of_ne_zero nonzero) (Nat.two_pow_pos _)
  have form : ofStandard negative m q = .finite negative m q standard := dif_pos standard
  have reads := toDouble_shortest negative standard nonzero
  have sign := Decimal.negative_of_toDouble reads
  obtain ⟨n, d, small, found, first, same⟩ : ∃ n d, n < 17 ∧
      (candidatesOf negative m q (n + 1)).find? (fun d => d.toDouble == .finite negative m q standard) = some d ∧
      (∀ k < n, ∀ e ∈ candidatesOf negative m q (k + 1), e.toDouble ≠ .finite negative m q standard) ∧
      shortest negative m q = d.strip := by
    rw [shortest]
    simp only [form]
    cases search : (List.range 17).findSome? fun n =>
        (candidatesOf negative m q (n + 1)).find? fun d => d.toDouble == .finite negative m q standard with
    | none =>
        obtain ⟨d, inside, here⟩ := exists_candidate_seventeen standard positive
        have none := List.findSome?_eq_none_iff.1 search 16 (by decide)
        exact absurd (beq_iff_eq.2 here) (List.find?_eq_none.1 none d inside)
    | some d =>
        obtain ⟨n, small, found, first⟩ := findSome?_range_eq_some search
        refine ⟨n, d, small, found, fun k less e inside here => ?_, rfl⟩
        exact List.find?_eq_none.1 (first k less) e inside (beq_iff_eq.2 here)
  rw [same] at reads sign ⊢
  have least (e : Decimal) (other : e.toDouble = .finite negative m q standard) :
      n + 1 ≤ Decimal.digitCount e.coefficient := by
    by_contra fewer
    have count := Decimal.digitCount_pos e.coefficient
    obtain ⟨c, inside, here, -⟩ := exists_candidate standard positive other
      (show Decimal.digitCount e.coefficient ≤ Decimal.digitCount e.coefficient - 1 + 1 by omega)
    exact first _ (by omega) c inside here
  have inside := List.mem_of_find?_eq_some found
  have few : Decimal.digitCount d.strip.coefficient ≤ n + 1 :=
    Decimal.digitCount_strip_le (Nat.succ_pos n) (coefficient_le_of_mem_candidatesOf positive inside)
  refine ⟨reads, fun e other => le_trans few (least e other), fun e v other count value => ?_⟩
  obtain ⟨c, beside, here, nearer⟩ := exists_candidate standard positive other (count ▸ few)
  have nearest := find?_candidatesOf found beside here
  rw [value?_finite, Option.some.injEq] at value
  have mine := d.strip.abs_value_sub (magnitude m q / unitsPerOne)
  have its := e.abs_value_sub (magnitude m q / unitsPerOne)
  rw [sign, value, Decimal.size_strip] at mine
  rw [Decimal.negative_of_toDouble other, value] at its
  rw [mine, its]
  exact le_trans nearest nearer

end Double

namespace Decimal

/-- A shortest decimal has no zeros at its end. -/
theorem IsShortest.not_zero_end {d : Decimal} {x : Double} (shortest : d.IsShortest x) (some : 0 < d.coefficient) :
    d.coefficient % 10 ≠ 0 := by
  intro zero
  have fewer := shortest.fewest _ ((toDouble_shift d ⟨some, zero⟩).trans shortest.reads)
  have count := digitCount_of_le (n := d.coefficient) (by omega)
  dsimp only at fewer
  omega

end Decimal

end TemplateBuiltins
