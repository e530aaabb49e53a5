/-
# Proofs.Number.Nearest -- rounding goes to the nearest double

A quotient lies in units of `2 ^ -1074` between two whole numbers, and rounding it
takes the nearer, a tie to the even (`roundQuotient_nearest`).  A double with many
units is a multiple of a power of two, and the multiples of that power beside the
quotient are doubles; any other double lies farther down (`magnitude_lt_of_not_dvd`).
So to round the quotient in units of that power is to find the nearest of all
doubles (`ofQuotient_nearest`).  Only where the quotient is past the middle between
the greatest double and the next power of two is the result infinite.
-/
import TemplateBuiltins.Number.Rounding
import TemplateBuiltins.Proofs.Text.Digits

set_option autoImplicit false

namespace TemplateBuiltins

/-! ## Whole numbers beside a quotient -/

/-- How far two counts are apart. -/
def gap (a b : Nat) : Nat := (a - b) + (b - a)

theorem zero_gap (n : Nat) : gap 0 n = n := by
  rw [gap]
  omega

/-- What is rounded moves by half at most, and by a half to an even number only. -/
theorem roundQuotient_half (num : Nat) {den : Nat} (positive : 0 < den) :
    2 * gap (roundQuotient num den * den) num ≤ den ∧
      (2 * gap (roundQuotient num den * den) num = den → roundQuotient num den % 2 = 0) := by
  have euclid : num / den * den + num % den = num := Nat.div_add_mod' num den
  have rest := Nat.mod_lt num positive
  unfold roundQuotient
  generalize num / den = whole at euclid ⊢
  generalize num % den = left at euclid rest ⊢
  have next : (whole + 1) * den = whole * den + den := Nat.succ_mul whole den
  show 2 * gap ((if 2 * left < den then whole else if den < 2 * left then whole + 1
    else whole + whole % 2) * den) num ≤ den ∧ _
  rcases Nat.lt_trichotomy (2 * left) den with less | half | more
  · rw [if_pos less, gap]
    omega
  · rw [if_neg (by omega), if_neg (by omega)]
    rcases Nat.mod_two_eq_zero_or_one whole with even | odd
    · rw [even, Nat.add_zero, gap]
      omega
    · rw [odd, next, gap]
      omega
  · rw [if_neg (by omega), if_pos more, next, gap]
    omega

/-- No whole number is nearer than the rounded one, and none as near unless that is even. -/
theorem roundQuotient_nearest (num : Nat) {den : Nat} (positive : 0 < den) (k : Nat) :
    gap (roundQuotient num den * den) num ≤ gap (k * den) num ∧
      (gap (roundQuotient num den * den) num = gap (k * den) num →
        k = roundQuotient num den ∨ roundQuotient num den % 2 = 0) := by
  obtain ⟨half, tie⟩ := roundQuotient_half num positive
  generalize roundQuotient num den = r at half tie ⊢
  by_cases same : k = r
  · rw [same]
    exact ⟨Nat.le_refl _, fun _ => .inl rfl⟩
  · have apart : den ≤ gap (k * den) (r * den) := by
      rcases Nat.lt_or_gt_of_ne same with below | above
      · have := Nat.mul_le_mul_right den (Nat.succ_le_of_lt below)
        rw [Nat.succ_mul] at this
        rw [gap]
        omega
      · have := Nat.mul_le_mul_right den (Nat.succ_le_of_lt above)
        rw [Nat.succ_mul] at this
        rw [gap]
        omega
    unfold gap at *
    exact ⟨by omega, fun equal => .inr (tie (by omega))⟩

theorem roundQuotient_between (num den : Nat) :
    num / den ≤ roundQuotient num den ∧ roundQuotient num den ≤ num / den + 1 := by
  simp only [roundQuotient]
  generalize num / den = whole
  have := Nat.mod_lt whole (show 0 < 2 by decide)
  split
  · omega
  · split <;> omega

theorem roundQuotient_mul (k : Nat) {den : Nat} (positive : 0 < den) :
    roundQuotient (k * den) den = k := by
  rw [roundQuotient, Nat.mul_mod_left, Nat.mul_div_cancel k positive]
  exact if_pos positive

/-- A common factor does not count. -/
theorem roundQuotient_scale (num den : Nat) {factor : Nat} (positive : 0 < factor) :
    roundQuotient (num * factor) (den * factor) = roundQuotient num den := by
  unfold roundQuotient
  rw [Nat.mul_div_mul_right num den positive, Nat.mul_mod_mul_right]
  have less : 2 * (num % den * factor) < den * factor ↔ 2 * (num % den) < den := by
    rw [← Nat.mul_assoc, Nat.mul_lt_mul_right positive]
  have more : den * factor < 2 * (num % den * factor) ↔ den < 2 * (num % den) := by
    rw [← Nat.mul_assoc, Nat.mul_lt_mul_right positive]
  simp only [less, more]

namespace Double

/-! ## Doubles as counts -/

/-- The magnitude of standard form with so many units to one of the significand. -/
theorem magnitude_eq (m p : Nat) : magnitude m (minExponent + p) = m * 2 ^ p := by
  rw [magnitude, Nat.pow_eq, show (minExponent + (p : Int) - minExponent).toNat = p by omega]

theorem standard_iff (m p : Nat) :
    Standard m (minExponent + p) ↔ m < 2 ^ 53 ∧ p ≤ 2045 ∧ (2 ^ 52 ≤ m ∨ p = 0) := by
  unfold Standard minExponent maxExponent
  rw [Nat.pow_eq, Nat.pow_eq]
  omega

/-- The exponent of a standard form is the least one raised. -/
theorem Standard.exists_places {m : Nat} {q : Int} (standard : Standard m q) :
    ∃ p : Nat, q = minExponent + p :=
  ⟨(q - minExponent).toNat, by
    have := standard.2.1
    omega⟩

theorem mul_two_pow_lt {m p r : Nat} (digits : m < 2 ^ 53) (less : p < r) : m * 2 ^ p < 2 ^ 52 * 2 ^ r := by
  calc m * 2 ^ p < 2 ^ 53 * 2 ^ p := Nat.mul_lt_mul_of_pos_right digits (Nat.two_pow_pos p)
    _ = 2 ^ 52 * 2 ^ (p + 1) := by rw [← Nat.pow_add, ← Nat.pow_add]; congr 1; omega
    _ ≤ 2 ^ 52 * 2 ^ r := Nat.mul_le_mul_left _ (Nat.pow_le_pow_right (by decide) less)

/-- A double that is no multiple of a power of two has fewer units than 53 digits of its multiples. -/
theorem magnitude_lt_of_not_dvd {m p : Nat} {q : Int} (standard : Standard m q)
    (uneven : ¬ 2 ^ p ∣ magnitude m q) : magnitude m q < 2 ^ 52 * 2 ^ p := by
  obtain ⟨places, rfl⟩ := standard.exists_places
  rw [standard_iff] at standard
  rw [magnitude_eq] at uneven ⊢
  apply mul_two_pow_lt standard.1
  apply Nat.lt_of_not_le
  intro coarse
  exact uneven (Nat.dvd_mul_left_of_dvd (Nat.pow_dvd_pow 2 coarse) m)

/-! ## The double of a quotient -/

/-- How many binary digits of a quotient are cut off. -/
def cut (num den : Nat) : Nat := dropped (num * unitsPerOne / den)

/-- The quotient without those digits, rounded. -/
def kept (num den : Nat) : Nat := roundQuotient (num * unitsPerOne) (den * 2 ^ cut num den)

theorem cut_le (num den : Nat) (cuts : 0 < cut num den) :
    2 ^ 52 * 2 ^ cut num den * den ≤ num * unitsPerOne := by
  unfold cut dropped at *
  generalize num * unitsPerOne = n at cuts ⊢
  have whole : n / den ≠ 0 := by
    intro zero
    rw [zero] at cuts
    exact absurd cuts (by decide)
  have log := Nat.log2_self_le whole
  calc 2 ^ 52 * 2 ^ ((n / den).log2 - 52) * den = 2 ^ (n / den).log2 * den := by
        rw [← Nat.pow_add, Nat.add_sub_cancel' (by omega)]
    _ ≤ n / den * den := Nat.mul_le_mul_right den log
    _ ≤ n := Nat.div_mul_le_self n den

theorem lt_cut (num : Nat) {den : Nat} (positive : 0 < den) :
    num * unitsPerOne < 2 ^ 53 * 2 ^ cut num den * den := by
  unfold cut dropped
  generalize num * unitsPerOne = n
  calc n < (n / den + 1) * den := Nat.lt_mul_of_div_lt (Nat.lt_succ_self _) positive
    _ ≤ 2 ^ ((n / den).log2 + 1) * den := Nat.mul_le_mul_right den Nat.lt_log2_self
    _ ≤ 2 ^ 53 * 2 ^ ((n / den).log2 - 52) * den := by
        rw [← Nat.pow_add]
        exact Nat.mul_le_mul_right den (Nat.pow_le_pow_right (by decide) (by omega))

theorem kept_le (num : Nat) {den : Nat} (positive : 0 < den) : kept num den ≤ 2 ^ 53 := by
  have bound := lt_cut num positive
  rw [Nat.mul_assoc, Nat.mul_comm _ den] at bound
  have whole := (Nat.div_lt_iff_lt_mul (Nat.mul_pos positive (Nat.two_pow_pos (cut num den)))).2 bound
  have := (roundQuotient_between (num * unitsPerOne) (den * 2 ^ cut num den)).2
  unfold kept
  omega

theorem le_kept (num : Nat) {den : Nat} (positive : 0 < den) (cuts : 0 < cut num den) :
    2 ^ 52 ≤ kept num den := by
  have bound := cut_le num den cuts
  rw [Nat.mul_assoc, Nat.mul_comm _ den] at bound
  have whole := (Nat.le_div_iff_mul_le (Nat.mul_pos positive (Nat.two_pow_pos (cut num den)))).2 bound
  exact Nat.le_trans whole (roundQuotient_between _ _).1

theorem kept_half (num : Nat) {den : Nat} (positive : 0 < den) :
    2 * gap (kept num den * (den * 2 ^ cut num den)) (num * unitsPerOne) ≤ den * 2 ^ cut num den ∧
      (2 * gap (kept num den * (den * 2 ^ cut num den)) (num * unitsPerOne) = den * 2 ^ cut num den →
        kept num den % 2 = 0) :=
  roundQuotient_half _ (Nat.mul_pos positive (Nat.two_pow_pos _))

/-- From this magnitude on, the middle between the greatest double and the next power of two, a
number is too large for a double. -/
def overflow : Nat := (2 ^ 54 - 1) * 2 ^ 970

theorem unitsPerOne_eq : unitsPerOne = 2 ^ 1074 := by
  unfold unitsPerOne
  generalize 1074 = n
  rfl

theorem unitsPerOne_pos : 0 < unitsPerOne := by
  unfold unitsPerOne
  generalize 1074 = n
  exact Nat.two_pow_pos n

/-- The overflow in units: half a step above the greatest significand of the greatest exponent. -/
theorem overflow_units : 2 * (overflow * unitsPerOne) = (2 ^ 54 - 1) * 2 ^ 2045 := by
  decide +kernel

theorem overflow_le_iff (num den : Nat) :
    overflow * den ≤ num ↔ (2 ^ 54 - 1) * (den * 2 ^ 2045) ≤ 2 * (num * unitsPerOne) := by
  have scale {a b c d : Nat} (same : 2 * (a * b) = c * d) : 2 * (a * den * b) = c * (den * d) := by
    rw [Nat.mul_right_comm, ← Nat.mul_assoc, same, Nat.mul_assoc, Nat.mul_comm d]
  rw [← scale overflow_units, Nat.mul_le_mul_left_iff (by decide), Nat.mul_le_mul_right_iff unitsPerOne_pos]

/-- At the greatest significand of an exponent, the middle behind it is rounded up. -/
theorem middle_le_iff_carry {n r step : Nat} (positive : 0 < step) (most : r ≤ 2 ^ 53)
    (half : 2 * gap (r * step) n ≤ step) (tie : 2 * gap (r * step) n = step → r % 2 = 0) :
    (2 ^ 54 - 1) * step ≤ 2 * n ↔ r = 2 ^ 53 := by
  unfold gap at half tie
  by_cases carry : r = 2 ^ 53
  · rw [carry] at half
    omega
  · by_cases odd : r = 2 ^ 53 - 1
    · rw [odd] at half tie
      have short := Nat.lt_of_le_of_ne half fun equal => absurd (tie equal) (by decide)
      clear half tie
      omega
    · have under : r * step ≤ (2 ^ 53 - 2) * step := Nat.mul_le_mul_right step (by omega)
      clear tie
      omega

/-- What is rounded reaches the middle behind all significands of some exponent exactly if more
digits are cut off, or as many and the significand is rounded to the next power of two. -/
theorem middle_le_iff (num : Nat) {den : Nat} (positive : 0 < den) (top : Nat) :
    (2 ^ 54 - 1) * (den * 2 ^ top) ≤ 2 * (num * unitsPerOne) ↔
      top < cut num den ∨ (cut num den = top ∧ kept num den = 2 ^ 53) := by
  have most := kept_le num positive
  have low := cut_le num den
  have high := lt_cut num positive
  obtain ⟨half, tie⟩ := kept_half num positive
  rw [Nat.mul_assoc, Nat.mul_comm _ den] at low high
  generalize num * unitsPerOne = n at half tie low high ⊢
  generalize cut num den = p at half tie low high ⊢
  generalize kept num den = r at half tie most ⊢
  rcases Nat.lt_trichotomy p top with fewer | rfl | more
  · have step : den * 2 ^ (p + 1) ≤ den * 2 ^ top :=
      Nat.mul_le_mul_left den (Nat.pow_le_pow_right (by decide) fewer)
    rw [Nat.pow_succ, ← Nat.mul_assoc] at step
    omega
  · have here : (p < p ∨ p = p ∧ r = 2 ^ 53) ↔ r = 2 ^ 53 := by simp
    rw [here]
    exact middle_le_iff_carry (Nat.mul_pos positive (Nat.two_pow_pos p)) most half tie
  · have step : den * 2 ^ (top + 1) ≤ den * 2 ^ p :=
      Nat.mul_le_mul_left den (Nat.pow_le_pow_right (by decide) more)
    rw [Nat.pow_succ, ← Nat.mul_assoc] at step
    have := low (by omega)
    omega

theorem ofQuotient_eq (negative : Bool) (num den : Nat) :
    ofQuotient negative num den =
      if kept num den = 2 ^ 53 then ofStandard negative (2 ^ 52) (minExponent + cut num den + 1)
      else ofStandard negative (kept num den) (minExponent + cut num den) := rfl

/-- A quotient is rounded in units of the power that is cut off, unless it is too large. -/
theorem ofQuotient_cases (negative : Bool) (num : Nat) {den : Nat} (positive : 0 < den) :
    (num < overflow * den ∧ ∃ m q standard, ofQuotient negative num den = .finite negative m q standard ∧
      magnitude m q = kept num den * 2 ^ cut num den ∧ (kept num den % 2 = 0 → m % 2 = 0)) ∨
    (overflow * den ≤ num ∧ ofQuotient negative num den = .infinite negative) := by
  have limit := (overflow_le_iff num den).trans (middle_le_iff num positive 2045)
  have most := kept_le num positive
  have least := le_kept num positive
  rw [ofQuotient_eq]
  generalize cut num den = p at limit least ⊢
  generalize kept num den = r at limit most least ⊢
  by_cases carry : r = 2 ^ 53
  · have next : minExponent + (p : Int) + 1 = minExponent + ((p + 1 : Nat) : Int) := by omega
    rw [if_pos carry, carry, next]
    by_cases room : p ≤ 2044
    · have standard : Standard (2 ^ 52) (minExponent + (p + 1 : Nat)) :=
        (standard_iff (2 ^ 52) (p + 1)).2 ⟨by decide, by omega, .inl (Nat.le_refl _)⟩
      refine .inl ⟨by omega, _, _, standard, dif_pos standard, ?_, fun _ => by decide⟩
      rw [magnitude_eq, ← Nat.pow_add, ← Nat.pow_add]
      congr 1
      omega
    · have exceeds : ¬ Standard (2 ^ 52) (minExponent + (p + 1 : Nat)) := fun standard => by
        have := ((standard_iff (2 ^ 52) (p + 1)).1 standard).2.1
        omega
      exact .inr ⟨by omega, dif_neg exceeds⟩
  · rw [if_neg carry]
    by_cases room : p ≤ 2045
    · have standard : Standard r (minExponent + p) := (standard_iff r p).2 ⟨by omega, room, by omega⟩
      exact .inl ⟨by omega, _, _, standard, dif_pos standard, magnitude_eq r p, id⟩
    · have exceeds : ¬ Standard r (minExponent + p) := fun standard =>
        room ((standard_iff r p).1 standard).2.1
      exact .inr ⟨by omega, dif_neg exceeds⟩

/-! ## The nearest double -/

/-- No double has a number of units nearer to the quotient than what is kept, and none has one as
near unless what is kept is even. -/
theorem kept_nearest (num : Nat) {den : Nat} (positive : 0 < den) {m : Nat} {q : Int}
    (standard : Standard m q) :
    gap (kept num den * 2 ^ cut num den * den) (num * unitsPerOne) ≤
        gap (magnitude m q * den) (num * unitsPerOne) ∧
      (gap (kept num den * 2 ^ cut num den * den) (num * unitsPerOne) =
          gap (magnitude m q * den) (num * unitsPerOne) →
        magnitude m q = kept num den * 2 ^ cut num den ∨ kept num den % 2 = 0) := by
  have least (k : Nat) := roundQuotient_nearest (num * unitsPerOne)
    (Nat.mul_pos positive (Nat.two_pow_pos (cut num den))) k
  have swap (k : Nat) : k * (den * 2 ^ cut num den) = k * 2 ^ cut num den * den := by
    rw [Nat.mul_comm den, Nat.mul_assoc]
  simp only [swap] at least
  change ∀ k, gap (kept num den * _ * den) _ ≤ _ ∧ (_ → k = kept num den ∨ kept num den % 2 = 0) at least
  by_cases even : 2 ^ cut num den ∣ magnitude m q
  · obtain ⟨k, multiple⟩ := even
    rw [multiple, Nat.mul_comm _ k]
    refine ⟨(least k).1, fun equal => ?_⟩
    exact ((least k).2 equal).imp_left fun same => by rw [same]
  · -- such a double lies below the least multiple that is kept, and that one below the quotient
    have cuts : 0 < cut num den := Nat.pos_of_ne_zero fun none => even (by simp [none])
    have below := cut_le num den cuts
    have farther : magnitude m q * den < 2 ^ 52 * 2 ^ cut num den * den :=
      Nat.mul_lt_mul_of_pos_right (magnitude_lt_of_not_dvd standard even) positive
    have nearer := (least (2 ^ 52)).1
    unfold gap at *
    omega

/-- How far a number of units lies from a quotient, in parts of a unit. -/
def distance (num : Int) (den : Nat) (units : Int) : Nat := (units * den - num * unitsPerOne).natAbs

/-- A double is the nearest to a quotient: no finite double is nearer, and one as near has its place
unless the significand is even.  Behind the overflow it is infinite. -/
def Nearest (num : Int) (den : Nat) : Double → Prop
  | .nan => False
  | .infinite negative => (negative = true ↔ num < 0) ∧ overflow * den ≤ num.natAbs
  | .finite negative m q _ =>
    num.natAbs < overflow * den ∧ ∀ (y : Double) (other : Int), y.units? = some other →
      distance num den (Text.withSign negative (magnitude m q)) ≤ distance num den other ∧
        (distance num den (Text.withSign negative (magnitude m q)) = distance num den other →
          other = Text.withSign negative (magnitude m q) ∨ m % 2 = 0)

theorem mul_unitsPerOne (num : Int) :
    num * unitsPerOne = Text.withSign (decide (num < 0)) (num.natAbs * unitsPerOne) := by
  rw [← Text.withSign_mul, Text.withSign_natAbs]

/-- On the side of the quotient only magnitudes count. -/
theorem distance_withSign (num : Int) (den count : Nat) :
    distance num den (Text.withSign (decide (num < 0)) count) =
      gap (count * den) (num.natAbs * unitsPerOne) := by
  rw [distance, mul_unitsPerOne, Text.withSign_mul]
  generalize count * den = a
  generalize num.natAbs * unitsPerOne = b
  unfold gap
  cases decide (num < 0)
  · rw [Text.withSign_false, Text.withSign_false]
    omega
  · rw [Text.withSign_true, Text.withSign_true]
    omega

/-- On the other side nothing is nearer than zero. -/
theorem distance_withSign_other (num : Int) (den count : Nat) :
    distance num den (Text.withSign (!decide (num < 0)) count) =
      count * den + num.natAbs * unitsPerOne := by
  rw [distance, mul_unitsPerOne, Text.withSign_mul]
  generalize count * den = a
  generalize num.natAbs * unitsPerOne = b
  cases decide (num < 0)
  · rw [Bool.not_false, Text.withSign_true, Text.withSign_false]
    omega
  · rw [Bool.not_true, Text.withSign_true, Text.withSign_false]
    omega

theorem magnitude_zero (q : Int) : magnitude 0 q = 0 := Nat.zero_mul _

/-- What has a place among the units is finite. -/
theorem exists_finite_of_units? {x : Double} {units : Int} (place : x.units? = some units) :
    ∃ negative m q, ∃ standard : Standard m q,
      x = .finite negative m q standard ∧ Text.withSign negative (magnitude m q) = units := by
  cases x with
  | nan => cases place
  | infinite negative => cases place
  | finite negative m q standard => exact ⟨negative, m, q, standard, rfl, Option.some.inj place⟩

/-- **Rounding gives the nearest double.** -/
theorem ofQuotient_nearest (num : Int) {den : Nat} (positive : 0 < den) :
    Nearest num den (ofQuotient (decide (num < 0)) num.natAbs den) := by
  rcases ofQuotient_cases (decide (num < 0)) num.natAbs positive with
    ⟨fits, m, q, standard, rounded, count, parity⟩ | ⟨exceeds, rounded⟩
  · rw [rounded]
    refine ⟨fits, fun y other place => ?_⟩
    rw [distance_withSign, count]
    obtain ⟨negative, n, e, form, rfl, rfl⟩ := exists_finite_of_units? place
    by_cases same : negative = decide (num < 0)
    · obtain ⟨nearer, tie⟩ := kept_nearest num.natAbs positive form
      rw [same, distance_withSign]
      refine ⟨nearer, fun equal => (tie equal).imp (fun place => ?_) parity⟩
      rw [place]
    · obtain ⟨nearer, tie⟩ := kept_nearest num.natAbs positive (show Standard 0 minExponent by decide)
      rw [magnitude_zero, Nat.zero_mul, zero_gap] at nearer tie
      rw [Bool.eq_not.2 same, distance_withSign_other]
      refine ⟨by omega, fun equal => ?_⟩
      have none : magnitude n e * den = 0 := by omega
      have place : magnitude n e = 0 := (Nat.mul_eq_zero.1 none).resolve_right (by omega)
      refine (tie (by omega)).imp (fun zero => ?_) parity
      rw [place, ← zero, Text.withSign_zero, Text.withSign_zero]
  · rw [rounded]
    exact ⟨decide_eq_true_iff, exceeds⟩

end Double

end TemplateBuiltins
