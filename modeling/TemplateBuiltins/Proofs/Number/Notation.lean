/-
# Proofs.Number.Notation -- which notation a number is written in

The text of a number is that of a numeral in one of two notations: with its places
(`Numeral.Positional`), or with one digit in front of the point and an exponent
(`Numeral.Scientific`).  Zero shows its places, and so does what lies from a millionth on, in
doubles, and below 10 ^ 21 (`Number.ShowsPlaces`).

A whole number in that range is written by all its digits.  Every other text is that of the
shortest decimal of the double nearest to the number, and has the same value as the text
that messages have for the double, though that may be in the other notation
(`Number.text_notation`).
-/
import TemplateBuiltins.Proofs.Json.Numbers
import TemplateBuiltins.Proofs.Number.Equality
import TemplateBuiltins.Proofs.Number.Threshold

set_option autoImplicit false

namespace TemplateBuiltins

open Double (magnitude unitsPerOne unitsPerOne_cast_pos)

/-! ## The two notations -/

namespace Numeral

/-- Digits without superfluous zeros, and no exponent. -/
structure Positional (n : Numeral) : Prop extends n.Strict where
  trimmed : n.Trimmed
  powerless : n.exponent = none

/-- One digit in front of the point, which is not zero, and an exponent without superfluous zeros. -/
structure Scientific (n : Numeral) : Prop extends n.Strict where
  trimmed : n.Trimmed
  single : ∃ c, n.whole = [c] ∧ c ≠ '0'
  powered : ∃ e : Int, n.exponent = some e ∧ (Text.padded 1 e.natAbs).head? ≠ some '0'

/-- Without an exponent the text does not depend on the digits that an exponent has. -/
theorem text_eq_of_powerless {n : Numeral} (powerless : n.exponent = none) (width other : Nat) :
    n.text width = n.text other := by
  rw [text, text, powerless, exponentText, exponentText]

end Numeral

theorem Text.padded_one (n : Nat) : padded 1 n = digits n := by
  have length := List.length_pos_iff.2 (digits_ne_nil n)
  have none : 1 - (digits n).length = 0 := by omega
  rw [padded, none, List.replicate_zero, List.nil_append]

namespace Decimal

variable {d : Decimal} (stripped : d.coefficient % 10 ≠ 0)

include stripped

theorem positional_positionalNumeral (fraction : d.exponent < 0) : d.positionalNumeral.Positional where
  toStrict := strict_positionalNumeral fraction
  trimmed := trimmed_positionalNumeral stripped fraction
  powerless := d.exponent_positionalNumeral

theorem scientific_scientificNumeral (powered : d.ceiling ≠ 1) : d.scientificNumeral.Scientific where
  toStrict := d.strict_scientificNumeral
  trimmed := trimmed_scientificNumeral stripped
  single := by
    have some : 0 < d.coefficient := Nat.pos_of_ne_zero fun zero => stripped (by rw [zero])
    obtain ⟨c, lead, whole⟩ := d.exists_lead_scientificNumeral
    exact ⟨c, whole, fun zero => Text.head?_digits some (zero ▸ lead)⟩
  powered := by
    refine ⟨d.ceiling - 1, rfl, ?_⟩
    rw [Text.padded_one]
    exact Text.head?_digits (by omega)

end Decimal

namespace Number

/-- The numbers that are written by their places. -/
def ShowsPlaces (v : ℚ) : Prop := v = 0 ∨ millionth ≤ |v| ∧ |v| < 10 ^ 21

/-- The number that a number of templates is, if it is finite. -/
def value? : Number → Option ℚ
  | .int n => some n
  | .double x => x.value?

/-! ## Whole numbers -/

theorem integer?_eq_some_iff_value? {x : Double} {n : Int} : integer? x = some n ↔ x.value? = some (n : ℚ) := by
  have one := unitsPerOne_cast_pos
  rw [integer?_eq_some, Double.value?, Option.map_eq_some_iff]
  constructor
  · intro units
    refine ⟨_, units, ?_⟩
    push_cast
    exact mul_div_cancel_right₀ _ one.ne'
  · rintro ⟨units, place, same⟩
    rw [div_eq_iff one.ne'] at same
    rw [place]
    exact congrArg some (by exact_mod_cast same)

theorem abs_lt_limit_iff (n : Int) : |(n : ℚ)| < 10 ^ 21 ↔ n.natAbs < exactLimit := by
  rw [← Int.cast_abs, Int.abs_eq_natAbs, exactLimit]
  exact_mod_cast Iff.rfl

theorem millionth_le_one : millionth ≤ 1 := by
  rw [millionth_eq_div]
  norm_num

theorem showsPlaces_intCast {n : Int} (small : n.natAbs < exactLimit) : ShowsPlaces n := by
  rw [← abs_lt_limit_iff] at small
  rcases eq_or_ne n 0 with rfl | nonzero
  · exact .inl Int.cast_zero
  · have least : (1 : ℚ) ≤ |(n : ℚ)| := by exact_mod_cast Int.one_le_abs nonzero
    exact .inr ⟨le_trans millionth_le_one least, small⟩

theorem not_showsPlaces_intCast {n : Int} (large : exactLimit ≤ n.natAbs) : ¬ ShowsPlaces n := by
  rintro (zero | ⟨-, small⟩)
  · rw [Int.cast_eq_zero.1 zero] at large
    exact absurd large (by decide)
  · exact absurd large (Nat.not_le.2 ((abs_lt_limit_iff n).1 small))

/-- The digits of an integer. -/
def intNumeral (n : Int) : Numeral := ⟨decide (n < 0), Text.digits n.natAbs, none, none⟩

theorem positional_intNumeral (n : Int) : (intNumeral n).Positional where
  toStrict := strict_int n
  trimmed := nofun
  powerless := rfl

theorem value_intNumeral (n : Int) : (intNumeral n).value = n := by
  rw [← Numeral.value_decimal, Decimal.value, Numeral.decimal, intNumeral]
  simp only [Option.getD_none, List.append_nil, List.length_nil, Text.digitsValue_digits, Text.withSign_natAbs]
  simp

/-! ## The numeral of a message -/

/-- A decimal in a message is a numeral of its value, with one zero behind the point if it has no fraction. -/
theorem exists_numeral_json {d : Decimal} (some : 0 < d.coefficient) :
    ∃ r : Numeral, r.Spells (Layout.json.decimal d) ∧ r.value = d.value := by
  have numeral {e : Decimal} (writes : e.Writes (Layout.json.decimal d)) (same : e.value = d.value) :
      ∃ r : Numeral, r.Spells (Layout.json.decimal d) ∧ r.value = d.value := by
    obtain ⟨r, width, strict, text, denotes, -⟩ := writes
    exact ⟨r, text ▸ strict.toPlain.spells width, by rw [← r.value_decimal, denotes, same]⟩
  by_cases pointed : d.exponent < 0 ∨ Layout.json.beyond < d.ceiling
  · exact numeral (Layout.writes_decimal _ d pointed) rfl
  · obtain ⟨whole, small⟩ := not_or.1 pointed
    obtain ⟨zeros, exponent⟩ := Int.eq_ofNat_of_zero_le (Int.not_lt.1 whole)
    apply numeral (Layout.writes_whole exponent (Int.not_lt.1 small) fun none => absurd none some.ne')
    rw [Decimal.value_eq_size, Decimal.value_eq_size, Decimal.size, Decimal.size, exponent]
    push_cast
    rw [zpow_natCast, zpow_neg_one]
    field_simp
    ring

/-- Decimals are written alike in messages and in JSON. -/
theorem message_decimal (d : Decimal) : Layout.message.decimal d = Layout.json.decimal d := rfl

/-- The text of a double in a message is a numeral of the value of its shortest decimal. -/
theorem exists_numeral_literal (negative : Bool) {m : Nat} {q : Int} (standard : Double.Standard m q)
    (nonzero : m ≠ 0) : ∃ r : Numeral, r.Spells (Number.double (.finite negative m q standard)).literal ∧
      r.value = (Double.shortest negative m q).value := by
  rw [literal, Layout.double, if_neg nonzero, message_decimal]
  exact exists_numeral_json (Double.coefficient_shortest_pos negative standard nonzero)

/-! ## The text of a double -/

/-- A decimal in a template has its places within the limits of the layout, and an exponent elsewhere. -/
theorem exists_numeral_template {d : Decimal} (stripped : d.coefficient % 10 ≠ 0)
    (fraction : Layout.template.lowest ≤ d.ceiling - 1 ∧ d.ceiling - 1 < Layout.template.beyond → d.exponent < 0) :
    ∃ n : Numeral, Layout.template.decimal d = n.text 1 ∧ n.negative = d.negative ∧ n.value = d.value ∧
      (Layout.template.lowest ≤ d.ceiling - 1 ∧ d.ceiling - 1 < Layout.template.beyond →
        n.Positional ∧ n.fraction ≠ none) ∧
      (¬ (Layout.template.lowest ≤ d.ceiling - 1 ∧ d.ceiling - 1 < Layout.template.beyond) → n.Scientific) := by
  by_cases within : Layout.template.lowest ≤ d.ceiling - 1 ∧ d.ceiling - 1 < Layout.template.beyond
  · have behind := fraction within
    have positional := Decimal.positional_positionalNumeral stripped behind
    refine ⟨d.positionalNumeral, ?_, d.negative_positionalNumeral, ?_,
      fun _ => ⟨positional, d.fraction_positionalNumeral⟩, fun other => absurd within other⟩
    · rw [Layout.decimal_of_within _ behind within]
      exact Numeral.text_eq_of_powerless positional.powerless 0 1
    · rw [← Numeral.value_decimal, Decimal.decimal_positionalNumeral behind]
  · have powered : d.ceiling ≠ 1 := by
      intro one
      rw [one] at within
      exact within (by decide)
    refine ⟨d.scientificNumeral, Layout.decimal_of_not_within _ within, rfl, ?_, fun places => absurd places within,
      fun _ => Decimal.scientific_scientificNumeral stripped powered⟩
    rw [← Numeral.value_decimal, d.decimal_scientificNumeral]

section Double

variable {negative : Bool} {m : Nat} {q : Int} (standard : Double.Standard m q) (nonzero : m ≠ 0)

/-- A double that is not written by the digits of an integer. -/
def Pointed (x : Double) : Prop := ∀ k, integer? x = some k → exactLimit ≤ k.natAbs

include nonzero in
/-- What shows its places though it is not written as an integer has a fraction. -/
theorem exponent_shortest_neg (pointed : Pointed (.finite negative m q standard))
    (small : (magnitude m q / unitsPerOne : ℚ) < 10 ^ 21) : (Double.shortest negative m q).exponent < 0 := by
  by_contra whole
  have reads := Double.toDouble_shortest negative standard nonzero
  obtain ⟨k, same⟩ := dvd_magnitude_of_toDouble (Int.not_lt.1 whole) reads
  rw [Nat.mul_comm] at same
  have integer : integer? (.finite negative m q standard) = some (Text.withSign negative k) :=
    integer?_eq_some.2 (by rw [Double.units?, same, Text.withSign_mul])
  have large := pointed _ integer
  rw [Text.natAbs_withSign, exactLimit] at large
  rw [same, Nat.cast_mul, mul_div_cancel_right₀ _ unitsPerOne_cast_pos.ne'] at small
  exact absurd large (Nat.not_le.2 (by exact_mod_cast small))

include nonzero in
/-- The text of a double that is not written as an integer is that of its shortest decimal. -/
theorem exists_numeral_double (pointed : Pointed (.finite negative m q standard)) :
    ∃ n : Numeral, doubleText (.finite negative m q standard) = n.text 1 ∧ n.negative = negative ∧
      n.value = (Double.shortest negative m q).value ∧
      (millionth ≤ magnitude m q / unitsPerOne ∧ (magnitude m q / unitsPerOne : ℚ) < 10 ^ 21 →
        n.Positional ∧ n.fraction ≠ none) ∧
      (¬ (millionth ≤ magnitude m q / unitsPerOne ∧ (magnitude m q / unitsPerOne : ℚ) < 10 ^ 21) → n.Scientific) := by
  have limits := Double.within_template_iff negative standard nonzero
  have shortest := Double.isShortest_shortest negative standard nonzero
  have stripped := shortest.not_zero_end (Double.coefficient_shortest_pos negative standard nonzero)
  have sign := Decimal.negative_of_toDouble shortest.reads
  have numeral := exists_numeral_template stripped fun within =>
    exponent_shortest_neg standard nonzero pointed (limits.1 within).2
  rw [limits, sign] at numeral
  rw [doubleText_eq pointed, Layout.double, if_neg nonzero]
  exact numeral

end Double

/-! ## The text of a number -/

/-- The numeral of a text for the number `v`, where `x` is the double nearest to `v`. -/
structure Rendered (n : Numeral) (v : ℚ) (x : Double) : Prop where
  sign : n.negative = true ↔ v < 0
  positional : ShowsPlaces v → n.Positional
  point : ShowsPlaces v → (n.fraction = none ↔ ∃ k : Int, v = k)
  whole : ShowsPlaces v → (∃ k : Int, v = k) → n.value = v
  scientific : ¬ ShowsPlaces v → n.Scientific
  shortest : ¬ (ShowsPlaces v ∧ ∃ k : Int, v = k) → ∃ d : Decimal, d.IsShortest x ∧ n.value = d.value
  message : ¬ (ShowsPlaces v ∧ ∃ k : Int, v = k) →
    ∃ r : Numeral, r.Spells (Number.double x).literal ∧ r.value = n.value

theorem rendered_intNumeral {k : Int} (small : k.natAbs < exactLimit) (x : Double) : Rendered (intNumeral k) k x where
  sign := by
    rw [intNumeral, decide_eq_true_iff]
    exact Int.cast_lt_zero.symm
  positional := fun _ => positional_intNumeral k
  point := fun _ => ⟨fun _ => ⟨k, rfl⟩, fun _ => rfl⟩
  whole := fun _ _ => value_intNumeral k
  scientific := fun without => absurd (showsPlaces_intCast small) without
  shortest := fun without => absurd ⟨showsPlaces_intCast small, k, rfl⟩ without
  message := fun without => absurd ⟨showsPlaces_intCast small, k, rfl⟩ without

/-- A double that is not written as an integer is rendered, for itself and for a number that has the same
notation. -/
theorem exists_rendered_double {x : Double} {v w : ℚ} (value : x.value? = some w) (nonzero : w ≠ 0)
    (pointed : Pointed x) (sign : v < 0 ↔ w < 0) (places : ShowsPlaces v ↔ ShowsPlaces w)
    (split : ShowsPlaces v → ¬ ∃ k : Int, v = k) :
    ∃ n : Numeral, doubleText x = n.text 1 ∧ Rendered n v x := by
  obtain ⟨negative, m, q, standard, rfl⟩ := Double.exists_finite_of_value? value
  rw [Double.value?_finite, Option.some.injEq] at value
  have some : m ≠ 0 := by
    rintro rfl
    rw [Double.magnitude_zero, Nat.cast_zero, zero_div, mul_zero] at value
    exact nonzero value.symm
  have positive : (0 : ℚ) < magnitude m q / unitsPerOne :=
    div_pos (Nat.cast_pos.2 (Nat.mul_pos (Nat.pos_of_ne_zero some) (Nat.two_pow_pos _))) unitsPerOne_cast_pos
  have below : w < 0 ↔ negative = true := value ▸ signed_lt_zero_iff negative positive
  have within : ShowsPlaces w ↔
      millionth ≤ magnitude m q / unitsPerOne ∧ (magnitude m q / unitsPerOne : ℚ) < 10 ^ 21 := by
    rw [ShowsPlaces, or_iff_right nonzero, ← value, abs_signed, abs_of_pos positive]
  obtain ⟨n, text, negated, number, positional, scientific⟩ := exists_numeral_double standard some pointed
  rw [← within, ← places] at positional scientific
  obtain ⟨r, spells, same⟩ := exists_numeral_literal negative standard some
  have rendered : Rendered n v (.finite negative m q standard) :=
    { sign := by rw [negated, sign, below]
      positional := fun shows => (positional shows).1
      point := fun shows =>
        ⟨fun none => absurd none (positional shows).2, fun whole => absurd whole (split shows)⟩
      whole := fun shows whole => absurd whole (split shows)
      scientific := scientific
      shortest := fun _ => ⟨_, Double.isShortest_shortest negative standard some, number⟩
      message := fun _ => ⟨r, spells, same.trans number.symm⟩ }
  exact ⟨n, text, rendered⟩

/-- A large integer is rounded to a large integer of its sign. -/
theorem exists_value?_ofInt {n : Int} (large : exactLimit ≤ n.natAbs) {w : ℚ}
    (value : (Double.ofInt n).value? = some w) :
    ∃ k : Int, w = k ∧ exactLimit ≤ k.natAbs ∧ (k < 0 ↔ n < 0) := by
  obtain ⟨negative, m, q, standard, rounded⟩ := Double.exists_finite_of_value? value
  obtain ⟨k, multiple⟩ := Double.dvd_magnitude_of_ofQuotient_one rounded
  rw [Nat.mul_comm] at multiple
  have integer : integer? (Double.ofInt n) = some (Text.withSign negative k) := by
    rw [rounded]
    exact integer?_eq_some.2 (by rw [Double.units?, multiple, Text.withSign_mul])
  have limit := exactLimit_le_of_integer? large integer
  have same := integer?_eq_some_iff_value?.1 integer
  rw [value] at same
  refine ⟨_, Option.some.inj same, limit, ?_⟩
  have signed := Double.signed_ofQuotient (decide (n < 0)) n.natAbs Nat.one_pos
  have sign : negative = decide (n < 0) := by
    rw [show Double.ofQuotient (decide (n < 0)) n.natAbs 1 = .finite negative m q standard from rounded] at signed
    exact signed
  rw [Text.natAbs_withSign] at limit
  rw [Text.withSign_lt_zero_iff (Nat.lt_of_lt_of_le (by decide) limit), sign, decide_eq_true_iff]

/-- The nearest double of a number is the one that it is converted to, unless that is zero. -/
theorem eq_of_nearestTo {x y : Double} {v w : ℚ} (first : x.NearestTo v) (second : y.NearestTo v)
    (value : y.value? = some w) (nonzero : w ≠ 0) : x = y := by
  obtain ⟨units, place, rfl⟩ := Double.exists_units?_of_value? value
  have same := (Double.Nearest.unique v.den_pos first second).1
  refine Double.eq_of_units? (same.trans place) place ?_
  rintro rfl
  exact nonzero (by rw [Int.cast_zero, zero_div])

theorem nearestTo_ofInt (n : Int) : (Double.ofInt n).NearestTo n := by
  have nearest := (Double.nearestTo_div_iff n Nat.one_pos _).2 (Double.ofQuotient_nearest n Nat.one_pos)
  rwa [Nat.cast_one, div_one] at nearest

theorem exists_rendered_of_small {k : Int} (small : k.natAbs < exactLimit) (x : Double) :
    ∃ n : Numeral, Text.signedDigits k = n.text 1 ∧ Rendered n k x :=
  ⟨intNumeral k, signedDigits_eq_text k, rendered_intNumeral small x⟩

/-- A large integer is rendered as the double that it is rounded to, which is as large. -/
theorem exists_rendered_of_large {k : Int} {x : Double} {w : ℚ} (large : exactLimit ≤ k.natAbs)
    (nearest : x.NearestTo k) (value : x.value? = some w) : ∃ n : Numeral, text (.int k) = n.text 1 ∧ Rendered n k x := by
  have here := nearestTo_ofInt k
  have same := (Double.Nearest.unique (k : ℚ).den_pos nearest here).1
  have rounded : (Double.ofInt k).value? = some w := by rw [Double.value?, ← same, ← Double.value?, value]
  obtain ⟨l, rfl, limit, sign⟩ := exists_value?_ofInt large rounded
  have nonzero : (l : ℚ) ≠ 0 := by
    rintro zero
    rw [Int.cast_eq_zero.1 zero] at limit
    exact absurd limit (by decide)
  have pointed : Pointed (Double.ofInt k) := fun j => exactLimit_le_of_integer? large
  have without := not_showsPlaces_intCast large
  rw [eq_of_nearestTo nearest here rounded nonzero, text_of_large large]
  apply exists_rendered_double rounded nonzero pointed
  · rw [Int.cast_lt_zero, Int.cast_lt_zero, sign]
  · exact iff_of_false without (not_showsPlaces_intCast limit)
  · exact fun shows => absurd shows without

theorem exists_rendered_of_double {x y : Double} {v : ℚ} (value : y.value? = some v) (nearest : x.NearestTo v) :
    ∃ n : Numeral, doubleText y = n.text 1 ∧ Rendered n v x := by
  have here := Double.nearestTo_self value
  by_cases pointed : Pointed y
  · have nonzero : v ≠ 0 := by
      rintro rfl
      have integer : integer? y = some 0 := integer?_eq_some_iff_value?.2 (by rw [value, Int.cast_zero])
      exact absurd (pointed 0 integer) (by decide)
    rw [eq_of_nearestTo nearest here value nonzero]
    apply exists_rendered_double value nonzero pointed Iff.rfl Iff.rfl
    rintro shows ⟨k, rfl⟩
    exact not_showsPlaces_intCast (pointed k (integer?_eq_some_iff_value?.2 value)) shows
  · simp only [Pointed, not_forall, Nat.not_le] at pointed
    obtain ⟨k, integer, small⟩ := pointed
    have whole := integer?_eq_some_iff_value?.1 integer
    rw [value, Option.some.injEq] at whole
    rw [whole, doubleText_of_small (integer?_eq_some.1 integer) small]
    exact exists_rendered_of_small small x

/-- **The text of a number is in the notation for its size.**  It is that of a numeral with the places or the
exponent that the size asks for, and has the value of the number, if that is whole and shows its places, or else of
the shortest decimal of the nearest double, which is the one that messages show. -/
theorem text_notation {a : Number} {x : Double} {v : ℚ} (value : a.value? = some v) (nearest : x.NearestTo v)
    (finite : x.value?.isSome) : ∃ n : Numeral, (Value.number a).text = n.text 1 ∧ Rendered n v x := by
  cases a with
  | int k =>
      obtain rfl : (k : ℚ) = v := Option.some.inj value
      obtain ⟨w, rounded⟩ := Option.isSome_iff_exists.1 finite
      show ∃ n : Numeral, text (.int k) = n.text 1 ∧ Rendered n k x
      rcases Nat.lt_or_ge k.natAbs exactLimit with small | large
      · rw [text_of_small small]
        exact exists_rendered_of_small small x
      · exact exists_rendered_of_large large nearest rounded
  | double y => exact exists_rendered_of_double value nearest

/-- The double nearest to a millionth, which is less than a millionth and still shows its places; and the first
integer below zero with an exponent. -/
theorem text_notation_limits :
    (∃ n : Numeral, (Value.double (.finite false 4722366482869645 (-72) (by decide))).text = n.text 1 ∧
      n.Positional ∧ n.fraction ≠ none) ∧
    ∃ n : Numeral, (Value.int (-10 ^ 21)).text = n.text 1 ∧ n.Scientific ∧ n.negative = true := by
  constructor
  · have value : (Double.finite false 4722366482869645 (-72) (by decide)).value? = some millionth := by
      rw [millionth, toDouble_millionth, Double.value?_finite, Option.getD_some]
    obtain ⟨n, text, rendered⟩ := text_notation (a := .double (.finite false 4722366482869645 (-72) (by decide)))
      value (Double.nearestTo_self value) (by rw [value]; rfl)
    have positive : 0 < millionth ∧ millionth < 1 := by
      rw [millionth_eq_div]
      norm_num
    have shows : ShowsPlaces millionth := by
      refine .inr ?_
      rw [abs_of_pos positive.1]
      exact ⟨le_refl _, lt_trans positive.2 (by norm_num)⟩
    refine ⟨n, text, rendered.positional shows, fun none => ?_⟩
    obtain ⟨k, whole⟩ := (rendered.point shows).1 none
    rw [whole] at positive
    have low : 0 < k := Int.cast_pos.1 positive.1
    have high : k < 1 := by exact_mod_cast positive.2
    omega
  · obtain ⟨n, text, rendered⟩ := text_notation (a := .int (-10 ^ 21)) rfl (nearestTo_ofInt (-10 ^ 21))
      (by decide +kernel)
    have without : ¬ ShowsPlaces ((-10 ^ 21 : Int) : ℚ) := not_showsPlaces_intCast (by decide)
    exact ⟨n, text, rendered.scientific without, rendered.sign.2 (by norm_num)⟩

end Number

end TemplateBuiltins
