/-
# Proofs.Number.Exact -- what is a double already is not rounded

Doubles in standard form are told apart by their units (`magnitude_injective`), so a
quotient that is a whole number of units of some double rounds to that double
(`ofQuotient_exact`).  A common factor of numerator and denominator does not count,
and a whole number rounds to a whole number (`dvd_magnitude_of_ofQuotient_one`).

Between two doubles with even significands lies another one, so that a quotient in the
middle between two doubles has an even one on one side only: there is one nearest
double (`Nearest.unique`).
-/
import TemplateBuiltins.Proofs.Number.Nearest

set_option autoImplicit false

namespace TemplateBuiltins.Double

/-- A common factor does not count. -/
theorem ofQuotient_scale (negative : Bool) (num den : Nat) {factor : Nat} (positive : 0 < factor) :
    ofQuotient negative (num * factor) (den * factor) = ofQuotient negative num den := by
  have units : num * factor * unitsPerOne = num * unitsPerOne * factor := Nat.mul_right_comm ..
  have same : cut (num * factor) (den * factor) = cut num den := by
    rw [cut, cut, units, Nat.mul_div_mul_right _ _ positive]
  have rounded : kept (num * factor) (den * factor) = kept num den := by
    rw [kept, kept, same, units, Nat.mul_right_comm den, roundQuotient_scale _ _ positive]
  rw [ofQuotient_eq, ofQuotient_eq, same, rounded]

/-- Standard forms with the same units are the same. -/
theorem magnitude_injective {m n : Nat} {q r : Int} (first : Standard m q) (second : Standard n r)
    (same : magnitude m q = magnitude n r) : m = n ∧ q = r := by
  obtain ⟨p, rfl⟩ := first.exists_places
  obtain ⟨k, rfl⟩ := second.exists_places
  rw [magnitude_eq, magnitude_eq] at same
  rw [standard_iff] at first second
  rcases Nat.lt_trichotomy p k with less | rfl | more
  · have far := mul_two_pow_lt first.1 less
    have := Nat.mul_le_mul_right (2 ^ k) (second.2.2.resolve_right (by omega))
    omega
  · exact ⟨Nat.eq_of_mul_eq_mul_right (Nat.two_pow_pos p) same, rfl⟩
  · have far := mul_two_pow_lt second.1 more
    have := Nat.mul_le_mul_right (2 ^ p) (first.2.2.resolve_right (by omega))
    omega

/-- No double of bounded exponent is greater than the one with all digits set. -/
theorem magnitude_le_greatest {m : Nat} {q : Int} (standard : Standard m q) (top : Nat)
    (small : q ≤ minExponent + top) : magnitude m q ≤ (2 ^ 53 - 1) * 2 ^ top := by
  obtain ⟨p, rfl⟩ := standard.exists_places
  rw [standard_iff] at standard
  rw [magnitude_eq]
  exact Nat.mul_le_mul (by omega) (Nat.pow_le_pow_right (by decide) (by omega))

/-- The greatest double lies below the middle behind it. -/
theorem magnitude_lt_middle {m den : Nat} {q : Int} (positive : 0 < den) (standard : Standard m q)
    (top : Nat) (small : q ≤ minExponent + top) : 2 * (magnitude m q * den) < (2 ^ 54 - 1) * (den * 2 ^ top) := by
  have step : 0 < den * 2 ^ top := Nat.mul_pos positive (Nat.two_pow_pos top)
  have greatest := Nat.mul_le_mul_right den (magnitude_le_greatest standard top small)
  rw [Nat.mul_assoc, Nat.mul_comm (2 ^ top)] at greatest
  omega

/-- An odd number of more than 53 binary digits is no double. -/
theorem units?_ne_of_odd {n : Nat} (odd : n % 2 = 1) (large : 2 ^ 53 ≤ n) (x : Double) :
    x.units? ≠ some ((n * unitsPerOne : Nat) : Int) := by
  obtain ⟨k, units⟩ : ∃ k, unitsPerOne = 2 ^ k := ⟨1074, unitsPerOne_eq⟩
  intro place
  obtain ⟨negative, m, q, standard, rfl, same⟩ := exists_finite_of_units? place
  obtain ⟨p, rfl⟩ := standard.exists_places
  have count := congrArg Int.natAbs same
  rw [Text.natAbs_withSign, Int.natAbs_natCast, magnitude_eq, units] at count
  have few := ((standard_iff m p).1 standard).1
  rcases Nat.lt_or_ge k p with coarse | fine
  · -- the number of units is a multiple of twice the unit of one, so the number is even
    have multiple : 2 ^ (k + 1) ∣ n * 2 ^ k := by
      rw [← count]
      exact Nat.dvd_mul_left_of_dvd (Nat.pow_dvd_pow 2 coarse) m
    rw [Nat.pow_succ, Nat.mul_comm n] at multiple
    have even := Nat.dvd_of_mul_dvd_mul_left (Nat.two_pow_pos k) multiple
    omega
  · have less : m * 2 ^ p < n * 2 ^ k :=
      Nat.mul_lt_mul_of_lt_of_le (Nat.lt_of_lt_of_le few large) (Nat.pow_le_pow_right (by decide) fine)
        (Nat.two_pow_pos k)
    omega

/-- A quotient that is a double is rounded to it. -/
theorem ofQuotient_exact (negative : Bool) {num den m : Nat} {q : Int} (positive : 0 < den)
    (standard : Standard m q) (exact : num * unitsPerOne = magnitude m q * den) :
    ofQuotient negative num den = .finite negative m q standard := by
  rcases ofQuotient_cases negative num positive with
    ⟨-, n, r, form, rounded, count, -⟩ | ⟨exceeds, -⟩
  · have nearest := (kept_nearest num positive standard).1
    rw [← count, ← exact] at nearest
    have same : magnitude n r * den = num * unitsPerOne := by
      unfold gap at nearest
      omega
    rw [exact] at same
    obtain ⟨rfl, rfl⟩ := magnitude_injective form standard (Nat.eq_of_mul_eq_mul_right positive same)
    exact rounded
  · rw [overflow_le_iff, exact] at exceeds
    have := magnitude_lt_middle positive standard 2045 standard.2.2.1
    omega

theorem pow_dvd_roundQuotient_mul (n k p : Nat) : 2 ^ k ∣ roundQuotient (n * 2 ^ k) (2 ^ p) * 2 ^ p := by
  rcases Nat.le_total k p with coarse | fine
  · exact Nat.dvd_mul_left_of_dvd (Nat.pow_dvd_pow 2 coarse) _
  · have whole : n * 2 ^ k = n * 2 ^ (k - p) * 2 ^ p := by
      rw [Nat.mul_assoc, ← Nat.pow_add, Nat.sub_add_cancel fine]
    rw [whole, roundQuotient_mul _ (Nat.two_pow_pos p), ← whole]
    exact Nat.dvd_mul_left _ _

/-- A whole number is rounded to a whole number. -/
theorem dvd_magnitude_of_ofQuotient_one {negative sign : Bool} {n m : Nat} {q : Int}
    {standard : Standard m q} (rounded : ofQuotient negative n 1 = .finite sign m q standard) :
    unitsPerOne ∣ magnitude m q := by
  rcases ofQuotient_cases negative n Nat.one_pos with ⟨-, k, r, form, same, count, -⟩ | ⟨-, same⟩
  · rw [rounded] at same
    cases same
    rw [count, kept, Nat.one_mul]
    rw [unitsPerOne_eq]
    exact pow_dvd_roundQuotient_mul n 1074 _
  · rw [rounded] at same
    cases same

/-! ## One nearest double -/

/-- Between two doubles with even significands there is another one. -/
theorem exists_magnitude_between {m n : Nat} {q r : Int} (first : Standard m q) (second : Standard n r)
    (evenFirst : m % 2 = 0) (evenSecond : n % 2 = 0) (less : magnitude m q < magnitude n r) :
    ∃ (k : Nat) (e : Int) (_ : Standard k e),
      magnitude m q < magnitude k e ∧ magnitude k e < magnitude n r := by
  obtain ⟨p, rfl⟩ := first.exists_places
  have form := (standard_iff m p).1 first
  have next : Standard (m + 1) (minExponent + p) := (standard_iff (m + 1) p).2 (by omega)
  have step : magnitude (m + 1) (minExponent + p) = magnitude m (minExponent + p) + 2 ^ p := by
    rw [magnitude_eq, magnitude_eq, Nat.succ_mul]
  have power := Nat.two_pow_pos p
  refine ⟨m + 1, minExponent + p, next, by omega, ?_⟩
  apply Nat.lt_of_le_of_ne
  · by_cases even : 2 ^ p ∣ magnitude n r
    · obtain ⟨k, multiple⟩ := even
      rw [multiple, magnitude_eq, Nat.mul_comm] at less
      rw [multiple, magnitude_eq, Nat.mul_comm _ k]
      exact Nat.mul_le_mul_right _ (Nat.lt_of_mul_lt_mul_left less)
    · -- with fewer units than such a multiple the second would lie below the first
      have few := magnitude_lt_of_not_dvd second even
      have cuts : p ≠ 0 := fun none => even (by simp [none])
      have := Nat.mul_le_mul_right (2 ^ p) (form.2.2.resolve_right cuts)
      rw [magnitude_eq] at less
      omega
  · intro same
    have := (magnitude_injective next second same).1
    omega

/-- The same for doubles of any sign. -/
theorem exists_units_between {s t : Bool} {m n : Nat} {q r : Int} (first : Standard m q)
    (second : Standard n r) (evenFirst : m % 2 = 0) (evenSecond : n % 2 = 0)
    (less : Text.withSign s (magnitude m q) < Text.withSign t (magnitude n r)) :
    ∃ (z : Double) (c : Int), z.units? = some c ∧
      Text.withSign s (magnitude m q) < c ∧ c < Text.withSign t (magnitude n r) := by
  cases s <;> cases t
  · rw [Text.withSign_false, Text.withSign_false] at less ⊢
    obtain ⟨k, e, form, low, high⟩ :=
      exists_magnitude_between first second evenFirst evenSecond (by omega)
    exact ⟨.finite false k e form, (magnitude k e : Nat), rfl, by omega, by omega⟩
  · rw [Text.withSign_false, Text.withSign_true] at less
    omega
  · rw [Text.withSign_true, Text.withSign_false] at less ⊢
    rcases Nat.eq_zero_or_pos (magnitude m q) with zero | below
    · obtain ⟨k, e, form, low, high⟩ :=
        exists_magnitude_between first second evenFirst evenSecond (by omega)
      exact ⟨.finite false k e form, (magnitude k e : Nat), rfl, by omega, by omega⟩
    · rcases Nat.eq_zero_or_pos (magnitude n r) with zero | above
      · obtain ⟨k, e, form, low, high⟩ :=
          exists_magnitude_between second first evenSecond evenFirst (by omega)
        exact ⟨.finite true k e form, -(magnitude k e : Nat), rfl, by omega, by omega⟩
      · exact ⟨zero false, 0, by rw [zero, units?, magnitude_zero, Text.withSign_zero], by omega, by omega⟩
  · rw [Text.withSign_true, Text.withSign_true] at less ⊢
    obtain ⟨k, e, form, low, high⟩ :=
      exists_magnitude_between second first evenSecond evenFirst (by omega)
    exact ⟨.finite true k e form, -(magnitude k e : Nat), rfl, by omega, by omega⟩

/-- What lies between two places at one distance is nearer. -/
theorem distance_lt_of_between {num a b c : Int} {den : Nat} (positive : 0 < den) (low : a < c)
    (high : c < b) (same : distance num den a = distance num den b) :
    distance num den c < distance num den a := by
  have left := Int.mul_lt_mul_of_pos_right low (Int.natCast_pos.2 positive)
  have right := Int.mul_lt_mul_of_pos_right high (Int.natCast_pos.2 positive)
  unfold distance at same ⊢
  generalize num * unitsPerOne = place at *
  omega

/-- **No two doubles at different places are the nearest to a quotient.** -/
theorem Nearest.unique {num : Int} {den : Nat} (positive : 0 < den) {x y : Double}
    (first : Nearest num den x) (second : Nearest num den y) :
    x.units? = y.units? ∧ ∀ negative, x = .infinite negative ↔ y = .infinite negative := by
  cases x with
  | nan => exact first.elim
  | infinite s =>
      cases y with
      | nan => exact second.elim
      | infinite t =>
          have same : s = t := Bool.eq_iff_iff.2 (first.1.trans second.1.symm)
          exact ⟨rfl, fun negative => by rw [same]⟩
      | finite t n r form => exact absurd first.2 (Nat.not_le.2 second.1)
  | finite s m q standard =>
      cases y with
      | nan => exact second.elim
      | infinite t => exact absurd second.2 (Nat.not_le.2 first.1)
      | finite t n r form =>
          refine ⟨?_, fun negative => ⟨nofun, nofun⟩⟩
          obtain ⟨here, tieHere⟩ := first.2 (.finite t n r form) _ rfl
          obtain ⟨there, tieThere⟩ := second.2 (.finite s m q standard) _ rfl
          have equal := Nat.le_antisymm here there
          apply Decidable.byContradiction
          intro differ
          have apart : Text.withSign t (magnitude n r) ≠ Text.withSign s (magnitude m q) := fun same =>
            differ (congrArg some same.symm)
          have evenFirst := (tieHere equal).resolve_left apart
          have evenSecond := (tieThere equal.symm).resolve_left (Ne.symm apart)
          -- both are even, so another double lies between them, and that one is nearer
          rcases Int.lt_or_gt_of_ne apart with less | more
          · obtain ⟨z, c, place, low, high⟩ := exists_units_between form standard evenSecond evenFirst less
            have := distance_lt_of_between positive low high equal.symm
            have := (second.2 z c place).1
            omega
          · obtain ⟨z, c, place, low, high⟩ := exists_units_between standard form evenFirst evenSecond more
            have := distance_lt_of_between positive low high equal
            have := (first.2 z c place).1
            omega

end TemplateBuiltins.Double
