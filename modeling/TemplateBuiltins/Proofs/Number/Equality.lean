/-
# Proofs.Number.Equality -- equal numbers have one text

Two numbers are equal if they lie at one place (`Number.SamePlace`): an integer can be equal to
a double, and the zeros are equal.  Doubles at one place are the same, unless they are zeros
(`Double.eq_of_units?`), and an integer that some double is equal to is rounded to that double
(`Double.ofInt_of_units?`).  So an integer and the double equal to it have one text, whether that
is the text of an integer or one with an exponent (`Number.text_eq_of_samePlace`).

Different numbers have different texts where the text can be read back: this is so for all doubles,
and for the integers that are written by all their digits (`Number.samePlace_of_text_eq`,
`Number.eq_of_text_eq`).
-/
import TemplateBuiltins.Proofs.Number.RoundTrip

set_option autoImplicit false

namespace TemplateBuiltins

namespace Double

/-- Doubles at one place are the same, but for the sign of a zero. -/
theorem eq_of_units? {x y : Double} {u : Int} (first : x.units? = some u) (second : y.units? = some u)
    (nonzero : u ≠ 0) : x = y := by
  obtain ⟨s, m, q, standard, rfl, rfl⟩ := exists_finite_of_units? first
  obtain ⟨t, n, r, form, rfl, places⟩ := exists_finite_of_units? second
  have same := congrArg Int.natAbs places
  rw [Text.natAbs_withSign, Text.natAbs_withSign] at same
  obtain ⟨rfl, rfl⟩ := magnitude_injective form standard same
  have positive : 0 < magnitude n r := by
    apply Nat.pos_of_ne_zero
    intro none
    apply nonzero
    rw [none, Text.withSign_zero]
  have signs : t = true ↔ s = true := by
    rw [← Text.withSign_lt_zero_iff positive, places, Text.withSign_lt_zero_iff positive]
  rw [Bool.eq_iff_iff.2 signs]

/-- An integer that is equal to a double is rounded to that double. -/
theorem ofInt_of_units? {x : Double} {n : Int} (units : x.units? = some (n * unitsPerOne)) (nonzero : n ≠ 0) :
    ofInt n = x := by
  obtain ⟨s, m, q, standard, rfl, place⟩ := exists_finite_of_units? units
  have count : n.natAbs * unitsPerOne = magnitude m q * 1 := by
    have size := congrArg Int.natAbs place
    rw [Text.natAbs_withSign, Int.natAbs_mul, Int.natAbs_natCast] at size
    rw [size, Nat.mul_one]
  have rounded := ofQuotient_exact (decide (n < 0)) Nat.one_pos standard count
  have here : (ofInt n).units? = some (n * unitsPerOne) := by
    rw [ofInt, rounded, units?, ← Nat.mul_one (magnitude m q), ← count, mul_unitsPerOne]
  have positive : (unitsPerOne : Int) ≠ 0 := Int.ne_of_gt (Int.natCast_pos.2 unitsPerOne_pos)
  exact eq_of_units? here units (Int.mul_ne_zero nonzero positive)

end Double

namespace Number

/-- Two numbers are equal: they lie at one place. -/
def SamePlace (a b : Number) : Prop := ∃ p, a.place? = some p ∧ b.place? = some p

variable {a b : Number}

theorem SamePlace.symm (same : a.SamePlace b) : b.SamePlace a := by
  obtain ⟨p, first, second⟩ := same
  exact ⟨p, second, first⟩

theorem place?_double_eq_units {x : Double} {u : Int} :
    (Number.double x).place? = some (.units u) ↔ x.units? = some u := by
  cases x with
  | nan => simp [place?, Double.units?]
  | infinite negative => cases negative <;> simp [place?, Double.units?]
  | finite negative m q standard => simp [place?, Double.units?]

/-! ## One text -/

theorem doubleText_of_small {x : Double} {n : Int} (units : x.units? = some (n * Double.unitsPerOne))
    (small : n.natAbs < exactLimit) : doubleText x = Text.signedDigits n := by
  rw [doubleText, integer?_eq_some.2 units]
  exact if_pos small

/-- A double that an integer is equal to has its text. -/
theorem doubleText_of_units? {x : Double} {n : Int} (units : x.units? = some (n * Double.unitsPerOne)) :
    doubleText x = text (.int n) := by
  by_cases small : n.natAbs < exactLimit
  · rw [doubleText_of_small units small, text_of_small small]
  · have nonzero : n ≠ 0 := by
      rintro rfl
      exact small (by decide)
    rw [text_of_large (Nat.not_lt.1 small), Double.ofInt_of_units? units nonzero]

/-- The text of a double is settled by its place. -/
theorem doubleText_congr {x y : Double} (same : (Number.double x).SamePlace (.double y)) :
    doubleText x = doubleText y := by
  obtain ⟨p, first, second⟩ := same
  cases p with
  | units u =>
      rw [place?_double_eq_units] at first second
      by_cases zero : u = 0
      · rw [zero, ← Int.zero_mul Double.unitsPerOne] at first second
        rw [doubleText_of_units? first, doubleText_of_units? second]
      · rw [Double.eq_of_units? first second zero]
  | bottom | top =>
      have infinite {z : Double} {p : Place} (given : (Number.double z).place? = some p)
          (ends : ∀ u, p ≠ .units u) : ∃ s, z = .infinite s ∧ p = if s then .bottom else .top := by
        cases z with
        | nan => cases given
        | infinite s => exact ⟨s, rfl, (Option.some.inj given).symm⟩
        | finite => exact absurd (Option.some.inj given).symm (ends _)
      obtain ⟨s, rfl, low⟩ := infinite first nofun
      obtain ⟨t, rfl, high⟩ := infinite second nofun
      have ends := low.symm.trans high
      cases s <;> cases t <;> first | rfl | cases ends

/-- **Equal numbers have one text.** -/
theorem text_eq_of_samePlace (same : a.SamePlace b) : a.text = b.text := by
  have units {n : Int} {x : Double} (same : (Number.int n).SamePlace (.double x)) :
      x.units? = some (n * Double.unitsPerOne) := by
    obtain ⟨p, first, second⟩ := same
    cases first
    exact place?_double_eq_units.1 second
  cases a with
  | int n =>
      cases b with
      | int m =>
          obtain ⟨p, first, second⟩ := same
          rw [← first] at second
          have positive : (Double.unitsPerOne : Int) ≠ 0 :=
            Int.ne_of_gt (Int.natCast_pos.2 Double.unitsPerOne_pos)
          have equal : m * (Double.unitsPerOne : Int) = n * Double.unitsPerOne := by
            simpa only [place?, Option.some.injEq, Place.units.injEq] using second
          rw [Int.eq_of_mul_eq_mul_right positive equal]
      | double y => exact (doubleText_of_units? (units same)).symm
  | double x =>
      cases b with
      | int m => exact doubleText_of_units? (units same.symm)
      | double y => exact doubleText_congr same

/-! ## Different texts -/

theorem exists_place?_of_ne_nan {x : Double} (number : x ≠ .nan) : ∃ p, (Number.double x).place? = some p := by
  cases x with
  | nan => exact absurd rfl number
  | infinite negative => exact ⟨_, rfl⟩
  | finite negative m q standard => exact ⟨_, rfl⟩

/-- Doubles with one text are equal, since the text denotes a number at their place. -/
theorem samePlace_of_text_eq {x y : Double} (number : x ≠ .nan)
    (same : (Number.double x).text = (Number.double y).text) : (Number.double x).SamePlace (.double y) := by
  obtain ⟨p, place⟩ := exists_place?_of_ne_nan number
  refine ⟨p, place, ?_⟩
  rw [← place, ← place?_ofText_doubleText x, ← place?_ofText_doubleText y]
  exact congrArg (fun s => (ofText s).place?) same.symm

/-- Integers that are written by all their digits are told apart by them. -/
theorem eq_of_text_eq {n m : Int} (first : n.natAbs < exactLimit) (second : m.natAbs < exactLimit)
    (same : (Number.int n).text = (Number.int m).text) : n = m := by
  have read := congrArg ofText same
  rw [text_of_small first, text_of_small second, ofText_signedDigits first, ofText_signedDigits second] at read
  exact Number.int.inj read

end Number

end TemplateBuiltins
