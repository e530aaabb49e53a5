/-
# Proofs.Number.Shortest -- the shortest decimal reads back

Cutting zeros off a coefficient changes neither the double nearest to a decimal nor
the place of its leading digit (`toDouble_strip`, `ceiling_strip`).  The decimal found
for a double reads back because that was the test, and where none is found the exact
decimal does, by rounding nothing (`toDouble_shortest`).  A decimal beside a double has
its leading digit no lower than the double has it (`lt_ceiling_shortest`).
-/
import TemplateBuiltins.Number.Shortest
import TemplateBuiltins.Proofs.Number.Exact

set_option autoImplicit false

namespace TemplateBuiltins

namespace Decimal

/-! ## Counting digits -/

theorem digitCount_of_lt {n : Nat} (small : n < 10) : digitCount n = 1 := by
  rw [digitCount, Text.digits_of_lt small]
  rfl

theorem digitCount_of_le {n : Nat} (large : 10 ≤ n) : digitCount n = digitCount (n / 10) + 1 := by
  rw [digitCount, Text.digits_of_le large, List.length_append]
  rfl

theorem digitCount_pos (n : Nat) : 0 < digitCount n :=
  List.length_pos_iff.2 (Text.digits_ne_nil n)

theorem lt_pow_digitCount (n : Nat) : n < 10 ^ digitCount n := by
  induction n using Nat.strongRecOn with
  | _ n ih =>
      rcases Nat.lt_or_ge n 10 with small | large
      · rw [digitCount_of_lt small]
        exact small
      · have shorter := ih (n / 10) (by omega)
        rw [digitCount_of_le large, Nat.pow_succ]
        omega

theorem pow_digitCount_le {n : Nat} (positive : 0 < n) : 10 ^ (digitCount n - 1) ≤ n := by
  induction n using Nat.strongRecOn with
  | _ n ih =>
      rcases Nat.lt_or_ge n 10 with small | large
      · rw [digitCount_of_lt small]
        exact positive
      · have shorter := ih (n / 10) (by omega) (by omega)
        have count := digitCount_pos (n / 10)
        rw [digitCount_of_le large, show digitCount (n / 10) + 1 - 1 = digitCount (n / 10) - 1 + 1 by omega,
          Nat.pow_succ]
        omega

theorem lt_digitCount {n k : Nat} (large : 10 ^ k ≤ n) : k < digitCount n :=
  (Nat.pow_lt_pow_iff_right (by decide)).1 (Nat.lt_of_le_of_lt large (lt_pow_digitCount n))

theorem digitCount_le {n k : Nat} (positive : 0 < n) (small : n < 10 ^ k) : digitCount n ≤ k := by
  have := (Nat.pow_lt_pow_iff_right (by decide)).1 (Nat.lt_of_le_of_lt (pow_digitCount_le positive) small)
  omega

/-! ## Zeros at the end -/

/-- The decimal with one zero of its coefficient in the exponent instead. -/
theorem ceiling_shift (d : Decimal) (zero : 0 < d.coefficient ∧ d.coefficient % 10 = 0) :
    ceiling ⟨d.negative, d.coefficient / 10, d.exponent + 1⟩ = d.ceiling := by
  have count := digitCount_of_le (n := d.coefficient) (by omega)
  simp only [ceiling]
  omega

theorem ofQuotient_shift (negative : Bool) (a : Nat) (e : Int) :
    Double.ofQuotient negative (quotient ⟨negative, a, e + 1⟩).1 (quotient ⟨negative, a, e + 1⟩).2 =
      Double.ofQuotient negative (quotient ⟨negative, a * 10, e⟩).1 (quotient ⟨negative, a * 10, e⟩).2 := by
  match e with
  | .ofNat e =>
      show Double.ofQuotient negative (a * 10 ^ (e + 1)) 1 = Double.ofQuotient negative (a * 10 * 10 ^ e) 1
      rw [Nat.pow_succ', Nat.mul_assoc]
  | .negSucc 0 =>
      show Double.ofQuotient negative (a * 1) 1 = Double.ofQuotient negative (a * 10) (1 * 10)
      rw [Nat.mul_one, Double.ofQuotient_scale negative a 1 (by decide)]
  | .negSucc (e + 1) =>
      show Double.ofQuotient negative a (10 ^ (e + 1)) =
        Double.ofQuotient negative (a * 10) (10 ^ (e + 1) * 10)
      rw [Double.ofQuotient_scale negative a _ (by decide)]

theorem toDouble_shift (d : Decimal) (zero : 0 < d.coefficient ∧ d.coefficient % 10 = 0) :
    toDouble ⟨d.negative, d.coefficient / 10, d.exponent + 1⟩ = d.toDouble := by
  have place := ceiling_shift d zero
  have shift := ofQuotient_shift d.negative (d.coefficient / 10) d.exponent
  rw [Nat.div_mul_cancel (Nat.dvd_of_mod_eq_zero zero.2)] at shift
  unfold toDouble
  rw [place, if_neg (show d.coefficient / 10 ≠ 0 by omega), if_neg (show d.coefficient ≠ 0 by omega), shift]

theorem ceiling_strip (d : Decimal) : d.strip.ceiling = d.ceiling := by
  fun_induction strip d with
  | case1 d zero ih => exact ih.trans (ceiling_shift d zero)
  | case2 d => rfl

theorem toDouble_strip (d : Decimal) : d.strip.toDouble = d.toDouble := by
  fun_induction strip d with
  | case1 d zero ih => exact ih.trans (toDouble_shift d zero)
  | case2 d => rfl

/-- Where the place of the leading digit decides nothing, the decimal is rounded as a quotient. -/
theorem toDouble_of_negSucc {negative : Bool} {a e : Nat} (nonzero : a ≠ 0)
    (low : underflowCeiling < ceiling ⟨negative, a, .negSucc e⟩)
    (high : ceiling ⟨negative, a, .negSucc e⟩ < overflowCeiling) :
    toDouble ⟨negative, a, .negSucc e⟩ = Double.ofQuotient negative a (10 ^ (e + 1)) := by
  rw [toDouble, if_neg nonzero, if_neg (by omega), if_neg (by omega)]
  rfl

end Decimal

namespace Double

/-! ## Reading back -/

theorem fives_pos : 0 < 5 ^ 1074 := by
  generalize 1074 = n
  exact Nat.pow_pos (by decide)

theorem fives_mul_unitsPerOne : 5 ^ 1074 * unitsPerOne = 10 ^ 1074 := by
  have halves (n : Nat) : 5 ^ n * 2 ^ n = 10 ^ n := (Nat.mul_pow 5 2 n).symm
  rw [unitsPerOne_eq]
  exact halves 1074

theorem exactDecimal_eq (negative : Bool) (units : Nat) :
    exactDecimal negative units = ⟨negative, units * 5 ^ 1074, minExponent⟩ := by
  unfold exactDecimal
  generalize 1074 = n
  rfl

/-- The exact decimal of a double is not decided from the place of its leading digit. -/
theorem ceiling_exactDecimal {m : Nat} {q : Int} (negative : Bool) (standard : Standard m q)
    (positive : 0 < magnitude m q) :
    Decimal.underflowCeiling < (exactDecimal negative (magnitude m q)).ceiling ∧
      (exactDecimal negative (magnitude m q)).ceiling < Decimal.overflowCeiling := by
  have below := magnitude_lt_middle Nat.one_pos standard 2045 standard.2.2.1
  have least : 10 ^ 750 ≤ 5 ^ 1074 := by decide +kernel
  have greatest : (2 ^ 54 - 1) * (1 * 2 ^ 2045) * 5 ^ 1074 ≤ 2 * 10 ^ 1383 := by decide +kernel
  simp only [Decimal.ceiling, exactDecimal_eq, Decimal.underflowCeiling, Decimal.overflowCeiling, minExponent]
  generalize magnitude m q = units at *
  generalize (2 ^ 54 - 1) * (1 * 2 ^ 2045) = middle at *
  have low : 750 < Decimal.digitCount (units * 5 ^ 1074) :=
    Decimal.lt_digitCount (Nat.le_trans least (Nat.le_mul_of_pos_left _ positive))
  have high : Decimal.digitCount (units * 5 ^ 1074) ≤ 1383 := by
    apply Decimal.digitCount_le (Nat.mul_pos positive fives_pos)
    have := Nat.mul_lt_mul_of_pos_right below fives_pos
    generalize 5 ^ 1074 = five at *
    generalize 10 ^ 1383 = ten at *
    rw [Nat.mul_one, Nat.mul_assoc] at this
    omega
  omega

theorem toDouble_exactDecimal {m : Nat} {q : Int} (negative : Bool) (standard : Standard m q)
    (positive : 0 < magnitude m q) :
    (exactDecimal negative (magnitude m q)).toDouble = .finite negative m q standard := by
  obtain ⟨low, high⟩ := ceiling_exactDecimal negative standard positive
  have power : 0 < 10 ^ (1073 + 1) := by
    generalize 1073 + 1 = n
    exact Nat.pow_pos (by decide)
  have place : exactDecimal negative (magnitude m q) = ⟨negative, magnitude m q * 5 ^ 1074, .negSucc 1073⟩ :=
    exactDecimal_eq negative (magnitude m q)
  have same : magnitude m q * 5 ^ 1074 * unitsPerOne = magnitude m q * 10 ^ (1073 + 1) := by
    rw [Nat.mul_assoc, fives_mul_unitsPerOne]
  rw [place] at low high ⊢
  rw [Decimal.toDouble_of_negSucc (Nat.ne_of_gt (Nat.mul_pos positive fives_pos)) low high]
  exact ofQuotient_exact negative power standard same

/-- The shortest decimal is one beside the double that reads back, or the exact one. -/
theorem shortest_cases {m : Nat} {q : Int} (negative : Bool) (standard : Standard m q) :
    ∃ d : Decimal, shortest negative m q = d.strip ∧
      ((∃ digits, d ∈ candidates negative (magnitude m q) (leadingExponent (magnitude m q)) (digits + 1) ∧
        d.toDouble = .finite negative m q standard) ∨ d = exactDecimal negative (magnitude m q)) := by
  have form : ofStandard negative m q = .finite negative m q standard := dif_pos standard
  refine ⟨_, rfl, ?_⟩
  simp only [form]
  cases search : (List.range 17).findSome? fun n =>
      (candidates negative (magnitude m q) (leadingExponent (magnitude m q)) (n + 1)).find? fun d =>
        d.toDouble == .finite negative m q standard with
  | none => exact .inr rfl
  | some d =>
      obtain ⟨digits, -, found⟩ := List.exists_of_findSome?_eq_some search
      have reads := List.find?_some found
      exact .inl ⟨digits, List.mem_of_find?_eq_some found, eq_of_beq reads⟩

/-- **The shortest decimal of a double reads back as the double.** -/
theorem toDouble_shortest {m : Nat} {q : Int} (negative : Bool) (standard : Standard m q)
    (nonzero : m ≠ 0) : (shortest negative m q).toDouble = .finite negative m q standard := by
  have count : 0 < magnitude m q := Nat.mul_pos (Nat.pos_of_ne_zero nonzero) (Nat.two_pow_pos _)
  obtain ⟨d, found, reads⟩ := shortest_cases negative standard
  rw [found, Decimal.toDouble_strip]
  rcases reads with ⟨-, -, reads⟩ | same
  · exact reads
  · rw [same, toDouble_exactDecimal negative standard count]

/-! ## The leading digit -/

theorem div_le_of_mem_neighbours {units c : Nat} {k : Int} (near : c ∈ neighbours units k) :
    (overTenTo units k).1 / (overTenTo units k).2 ≤ c := by
  have between := (roundQuotient_between (overTenTo units k).1 (overTenTo units k).2).1
  simp only [neighbours, List.mem_cons, List.not_mem_nil, or_false] at near
  rcases near with rounded | other
  · rw [rounded]
    exact between
  · rw [other]
    split <;> omega

theorem overTenTo_natCast (units k : Nat) : overTenTo units k = (units, unitsPerOne * 10 ^ k) := rfl

theorem overTenTo_negSucc (units k : Nat) :
    overTenTo units (.negSucc k) = (units * 10 ^ (k + 1), unitsPerOne) := rfl

/-- A number of units has at least the digits that its leading exponent promises. -/
theorem pow_le_overTenTo {units lead : Nat} (large : 10 ^ lead * unitsPerOne ≤ units) (digits : Nat) :
    10 ^ digits ≤ (overTenTo units (lead - digits)).1 / (overTenTo units (lead - digits)).2 := by
  rcases Nat.lt_or_ge lead digits with fine | coarse
  · obtain ⟨k, rfl⟩ := Nat.exists_eq_add_of_lt fine
    rw [show (lead : Int) - (lead + k + 1 : Nat) = Int.negSucc k by omega, overTenTo_negSucc,
      Nat.le_div_iff_mul_le unitsPerOne_pos]
    calc 10 ^ (lead + k + 1) * unitsPerOne = 10 ^ lead * unitsPerOne * 10 ^ (k + 1) := by
          rw [Nat.add_assoc, Nat.pow_add, Nat.mul_right_comm]
      _ ≤ units * 10 ^ (k + 1) := Nat.mul_le_mul_right _ large
  · obtain ⟨k, rfl⟩ := Nat.exists_eq_add_of_le coarse
    rw [show ((digits + k : Nat) : Int) - digits = (k : Nat) by omega, overTenTo_natCast,
      Nat.le_div_iff_mul_le (Nat.mul_pos unitsPerOne_pos (Nat.pow_pos (by decide)))]
    calc 10 ^ digits * (unitsPerOne * 10 ^ k) = 10 ^ (digits + k) * unitsPerOne := by
          rw [Nat.pow_add, Nat.mul_comm unitsPerOne, Nat.mul_assoc]
      _ ≤ units := large

theorem leadingExponent_eq (units : Nat) :
    leadingExponent units = Decimal.digitCount (units * 10 ^ 324 / unitsPerOne) - 325 := by
  unfold leadingExponent
  generalize 324 = n
  rfl

/-- A number of units has a leading digit of that place. -/
theorem leadingExponent_spec {units e : Nat} (large : 10 ^ e * unitsPerOne ≤ units) :
    ∃ lead : Nat, leadingExponent units = lead ∧ e ≤ lead ∧ 10 ^ lead * unitsPerOne ≤ units := by
  have tens := Nat.pow_pos (n := 324) (show 0 < 10 by decide)
  have scaled {a : Nat} : 10 ^ a ≤ units * 10 ^ 324 / unitsPerOne ↔
      10 ^ a * unitsPerOne ≤ units * 10 ^ 324 := Nat.le_div_iff_mul_le unitsPerOne_pos
  have raised {a : Nat} : 10 ^ (a + 324) ≤ units * 10 ^ 324 / unitsPerOne ↔
      10 ^ a * unitsPerOne ≤ units := by
    rw [scaled, pow_add, Nat.mul_right_comm, Nat.mul_le_mul_right_iff tens]
  have least := raised.2 large
  have count := Decimal.lt_digitCount least
  have power := Decimal.pow_digitCount_le (Nat.lt_of_lt_of_le (Nat.pow_pos (by decide)) least)
  refine ⟨Decimal.digitCount (units * 10 ^ 324 / unitsPerOne) - 325, ?_, by omega, ?_⟩
  · rw [leadingExponent_eq]
    omega
  · rw [← raised, show _ - 325 + 324 = Decimal.digitCount (units * 10 ^ 324 / unitsPerOne) - 1 by omega]
    exact power

/-- A double from a power of ten on has a shortest decimal from that power on. -/
theorem lt_ceiling_shortest {m e : Nat} {q : Int} (negative : Bool) (standard : Standard m q)
    (large : 10 ^ e * unitsPerOne ≤ magnitude m q) :
    (e : Int) < (shortest negative m q).ceiling := by
  obtain ⟨d, found, origin⟩ := shortest_cases negative standard
  rw [found, Decimal.ceiling_strip]
  rcases origin with ⟨digits, inside, -⟩ | whole
  · obtain ⟨lead, same, least, power⟩ := leadingExponent_spec large
    obtain ⟨c, near, rfl⟩ := List.mem_map.1 inside
    have quotient := div_le_of_mem_neighbours near
    rw [same, show (lead : Int) - (digits + 1 : Nat) + 1 = lead - digits by omega] at quotient ⊢
    have count := Decimal.lt_digitCount (Nat.le_trans (pow_le_overTenTo power digits) quotient)
    simp only [Decimal.ceiling]
    omega
  · have count : e + 1074 < Decimal.digitCount (magnitude m q * 5 ^ 1074) := by
      apply Decimal.lt_digitCount
      rw [pow_add, ← fives_mul_unitsPerOne, Nat.mul_comm (5 ^ 1074), ← Nat.mul_assoc]
      exact Nat.mul_le_mul_right _ large
    simp only [whole, Decimal.ceiling, exactDecimal_eq, minExponent]
    omega

end Double

end TemplateBuiltins
