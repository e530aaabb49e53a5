/-
# Proofs.Number.RoundTrip -- the text of a number reads back as the number

A decimal that is written with a point or an exponent has a text that denotes that decimal
itself (`Writes`).  Only a decimal without a fraction that is written positionally loses its
exponent, and such a one is never the text of a double of template text: small whole doubles
are written as integers, and large ones have decimals that are too large for it
(`Double.lt_ceiling_shortest`).

So the text of a number reads back as the integer, or as the double of the number
(`ofText_text_number`).
-/
import Mathlib.Algebra.Ring.Int.Defs
import TemplateBuiltins.Proofs.Number.Layout
import TemplateBuiltins.Proofs.Number.Shortest
import TemplateBuiltins.Rendering

set_option autoImplicit false

namespace TemplateBuiltins

/-! ## Texts of decimals -/

/-- A text is that of a strict numeral with a point or an exponent that denotes the decimal. -/
def Decimal.Writes (d : Decimal) (s : List Char) : Prop :=
  ∃ (n : Numeral) (width : Nat), n.Strict ∧ s = n.text width ∧ n.decimal = d ∧
    ¬ (n.fraction = none ∧ n.exponent = none)

theorem Decimal.Writes.ofText {d : Decimal} {s : List Char} (writes : d.Writes s) :
    Number.ofText s = .double d.toDouble := by
  obtain ⟨n, width, strict, rfl, denotes, pointed⟩ := writes
  rw [Number.ofText_text strict.toPlain, Numeral.number, denotes]
  apply if_neg
  rintro ⟨whole, power, -⟩
  exact pointed ⟨Option.isNone_iff_eq_none.1 whole, Option.isNone_iff_eq_none.1 power⟩

namespace Layout

variable (layout : Layout) (d : Decimal)

theorem writes_decimal (pointed : d.exponent < 0 ∨ layout.beyond < d.ceiling) :
    d.Writes (layout.decimal d) := by
  by_cases within : layout.lowest ≤ d.ceiling - 1 ∧ d.ceiling - 1 < layout.beyond
  · have fraction : d.exponent < 0 := by omega
    exact ⟨d.positionalNumeral, 0, Decimal.strict_positionalNumeral fraction,
      layout.decimal_of_within fraction within, Decimal.decimal_positionalNumeral fraction,
      fun pointless => d.fraction_positionalNumeral pointless.1⟩
  · exact ⟨d.scientificNumeral, _, d.strict_scientificNumeral, layout.decimal_of_not_within within,
      d.decimal_scientificNumeral, by simp [Decimal.scientificNumeral]⟩

end Layout

namespace Number

/-! ## Integers -/

theorem signedDigits_eq_text (n : Int) :
    Text.signedDigits n = Numeral.text 0 ⟨decide (n < 0), Text.digits n.natAbs, none, none⟩ := by
  simp only [Numeral.text, Numeral.fractionText, Numeral.exponentText, List.append_nil]
  cases n with
  | ofNat n =>
      rw [show decide (Int.ofNat n < 0) = false from decide_eq_false (Int.not_lt.2 (Int.natCast_nonneg n))]
      rfl
  | negSucc n =>
      rw [show decide (Int.negSucc n < 0) = true from decide_eq_true (Int.negSucc_lt_zero n)]
      rfl

theorem ofText_signedDigits {n : Int} (small : n.natAbs < exactLimit) :
    ofText (Text.signedDigits n) = .int n := by
  have plain : Numeral.Plain ⟨decide (n < 0), Text.digits n.natAbs, none, none⟩ :=
    ⟨Text.digits_ne_nil _, fun c inside => Text.isAsciiDigit_of_mem_digits inside, by simp⟩
  have short : (Text.digits n.natAbs).length ≤ Text.digitLimit := by
    rcases Nat.eq_zero_or_pos n.natAbs with zero | positive
    · rw [zero, Text.digits_of_lt (by decide)]
      decide
    · exact Nat.le_trans (Decimal.digitCount_le positive small) (by decide)
  have limit : exactLimit ≤ Numeral.largestDouble := by decide +kernel
  have value := Text.digitsValue_digits n.natAbs
  rw [signedDigits_eq_text, ofText_text plain, Numeral.number]
  simp only [value]
  rw [if_pos ⟨rfl, rfl, short, Nat.le_trans (Nat.le_of_lt small) limit⟩, Text.withSign_natAbs]

/-! ## Doubles -/

theorem integer?_eq_some {x : Double} {n : Int} :
    integer? x = some n ↔ x.units? = some (n * Double.unitsPerOne) := by
  have positive : (Double.unitsPerOne : Int) ≠ 0 :=
    Int.ne_of_gt (Int.natCast_pos.2 Double.unitsPerOne_pos)
  rw [integer?]
  cases x.units? with
  | none => exact ⟨nofun, nofun⟩
  | some u =>
      generalize (Double.unitsPerOne : Int) = one at positive ⊢
      simp only [Option.some.injEq]
      constructor
      · intro whole
        split at whole
        · rename_i divides
          cases whole
          exact (Int.ediv_mul_cancel (Int.dvd_of_emod_eq_zero divides)).symm
        · cases whole
      · rintro rfl
        rw [if_pos (Int.mul_emod_left n one), Int.mul_ediv_cancel n positive]

/-- Where the exponent is no fraction, the nearest double is whole. -/
theorem dvd_magnitude_of_toDouble {d : Decimal} {negative : Bool} {m : Nat} {q : Int}
    {standard : Double.Standard m q} (whole : 0 ≤ d.exponent)
    (same : d.toDouble = .finite negative m q standard) : Double.unitsPerOne ∣ Double.magnitude m q := by
  obtain ⟨sign, coefficient, exponent⟩ := d
  obtain ⟨e, rfl⟩ := Int.eq_ofNat_of_zero_le whole
  unfold Decimal.toDouble at same
  split at same
  · cases same
    rw [Double.magnitude_zero]
    exact Nat.dvd_zero _
  · split at same
    · cases same
    · split at same
      · cases same
        rw [Double.magnitude_zero]
        exact Nat.dvd_zero _
      · exact Double.dvd_magnitude_of_ofQuotient_one same

/-- A double that is not written as an integer is read back itself. -/
theorem ofText_double {x : Double} (large : ∀ n, integer? x = some n → exactLimit ≤ n.natAbs) :
    ofText (Layout.template.double x) = .double x := by
  cases x with
  | nan => rfl
  | infinite negative => cases negative <;> rfl
  | finite negative m q standard =>
      have nonzero : m ≠ 0 := by
        rintro rfl
        have whole : integer? (.finite negative 0 q standard) = some 0 :=
          integer?_eq_some.2 (by
            rw [Double.units?, Double.magnitude_zero, Text.withSign_zero, Int.zero_mul])
        exact absurd (large 0 whole) (by decide)
      have pointed : (Double.shortest negative m q).exponent < 0 ∨
          Layout.template.beyond < (Double.shortest negative m q).ceiling := by
        by_cases whole : Double.unitsPerOne ∣ Double.magnitude m q
        · right
          obtain ⟨k, same⟩ := whole
          rw [Nat.mul_comm] at same
          have integer : integer? (.finite negative m q standard) = some (Text.withSign negative k) :=
            integer?_eq_some.2 (by rw [Double.units?, same, Text.withSign_mul])
          have size := large _ integer
          rw [Text.natAbs_withSign] at size
          apply Double.lt_ceiling_shortest negative standard (e := 21)
          rw [same]
          exact Nat.mul_le_mul_right _ size
        · left
          apply Int.lt_of_not_ge
          intro positive
          exact whole (dvd_magnitude_of_toDouble positive (Double.toDouble_shortest negative standard nonzero))
      rw [Layout.double, if_neg nonzero, (Layout.writes_decimal _ _ pointed).ofText,
        Double.toDouble_shortest negative standard nonzero]

/-- The text of a double denotes a number at its place. -/
theorem place?_ofText_doubleText (x : Double) : (ofText (doubleText x)).place? = (Number.double x).place? := by
  rw [doubleText]
  cases whole : integer? x with
  | none => exact congrArg place? (ofText_double (by simp [whole]))
  | some n =>
      have units := integer?_eq_some.1 whole
      by_cases small : n.natAbs < exactLimit
      · simp only [if_pos small]
        rw [ofText_signedDigits small]
        cases x with
        | nan => cases units
        | infinite negative => cases units
        | finite negative m q standard =>
            rw [place?, place?, ← Option.some.inj units]
      · simp only [if_neg small]
        rw [ofText_double]
        intro k same
        rw [whole, Option.some.injEq] at same
        omega

/-! ## Large integers -/

/-- The power of ten from which numbers have exponents is a double, on either side of zero. -/
theorem units?_exactLimit (negative : Bool) :
    ∃ x : Double, x.units? = some (Text.withSign negative exactLimit * Double.unitsPerOne) := by
  have standard : Double.Standard (5 ^ 21 * 2 ^ 4) 17 := by decide
  have count : Double.magnitude (5 ^ 21 * 2 ^ 4) 17 = exactLimit * Double.unitsPerOne := by decide +kernel
  exact ⟨.finite negative _ _ standard, by rw [Double.units?, count, Text.withSign_mul]⟩

theorem distance_one (n k : Int) :
    Double.distance n 1 (k * Double.unitsPerOne) = (k - n).natAbs * Double.unitsPerOne := by
  rw [Double.distance, Int.natCast_one, Int.mul_one, ← Int.sub_mul, Int.natAbs_mul, Int.natAbs_natCast]

/-- A large integer is not rounded to a small one. -/
theorem exactLimit_le_of_integer? {n k : Int} (large : exactLimit ≤ n.natAbs)
    (whole : integer? (Double.ofInt n) = some k) : exactLimit ≤ k.natAbs := by
  have nearest : Double.Nearest n 1 (Double.ofInt n) := Double.ofQuotient_nearest n Nat.one_pos
  have units := integer?_eq_some.1 whole
  obtain ⟨y, other⟩ := units?_exactLimit (decide (n < 0))
  cases rounded : Double.ofInt n with
  | nan =>
      rw [rounded] at units
      cases units
  | infinite negative =>
      rw [rounded] at units
      cases units
  | finite negative m q standard =>
      rw [rounded] at nearest units
      have nearer := (nearest.2 y _ other).1
      rw [Option.some.inj units, distance_one, distance_one,
        Nat.mul_le_mul_right_iff Double.unitsPerOne_pos] at nearer
      generalize exactLimit = limit at large nearer ⊢
      by_cases below : n < 0
      · rw [decide_eq_true below, Text.withSign_true] at nearer
        omega
      · rw [decide_eq_false below, Text.withSign_false] at nearer
        omega

theorem doubleText_eq {x : Double} (large : ∀ n, integer? x = some n → exactLimit ≤ n.natAbs) :
    doubleText x = Layout.template.double x := by
  rw [doubleText]
  cases whole : integer? x with
  | none => rfl
  | some n => exact if_neg (Nat.not_lt.2 (large n whole))

theorem text_of_small {n : Int} (small : n.natAbs < exactLimit) : text (.int n) = Text.signedDigits n :=
  if_pos small

theorem text_of_large {n : Int} (large : exactLimit ≤ n.natAbs) :
    text (.int n) = doubleText (Double.ofInt n) := if_neg (Nat.not_lt.2 large)

/-- **Reading undoes writing.**  The text of an integer below the limit of exact texts denotes that
integer, the text of a double a number at the same place, and the text of a large integer the double
nearest to it. -/
theorem ofText_text_number :
    (∀ n : Int, n.natAbs < 10 ^ 21 → ofText (Value.number (.int n)).text = .int n) ∧
    (∀ x : Double, (ofText (Value.number (.double x)).text).place? = (Number.double x).place?) ∧
    ofText (Value.number (.double .nan)).text = .double .nan ∧
    (∀ n : Int, 10 ^ 21 ≤ n.natAbs →
      ∃ x, ofText (Value.number (.int n)).text = .double x ∧ Double.Nearest n 1 x) := by
  refine ⟨fun n small => ?_, place?_ofText_doubleText, rfl, fun n large => ⟨Double.ofInt n, ?_, ?_⟩⟩
  · show ofText (text (.int n)) = _
    rw [text_of_small small, ofText_signedDigits small]
  · have notSmall : ∀ k, integer? (Double.ofInt n) = some k → exactLimit ≤ k.natAbs :=
      fun k whole => exactLimit_le_of_integer? large whole
    show ofText (text (.int n)) = _
    rw [text_of_large large, doubleText_eq notSmall, ofText_double notSmall]
  · exact Double.ofQuotient_nearest n Nat.one_pos

/-- The last integer with an exact text, and the first without one below zero. -/
theorem ofText_text_limits :
    ofText (Value.number (.int (10 ^ 21 - 1))).text = .int (10 ^ 21 - 1) ∧
      ∃ x, ofText (Value.number (.int (-10 ^ 21))).text = .double x ∧ Double.Nearest (-10 ^ 21) 1 x :=
  ⟨ofText_text_number.1 _ (by decide), ofText_text_number.2.2.2 _ (by decide)⟩

end Number

end TemplateBuiltins
