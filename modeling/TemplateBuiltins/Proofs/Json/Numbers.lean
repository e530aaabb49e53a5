/-
# Proofs.Json.Numbers -- a number that is written as JSON is read back

JSON has numerals without superfluous zeros in front and with digits behind their point
(`Numeral.Strict`).  In front of a text that does not go on with them they are read as they
are (`readNumber?_text`).  An integer is written as such a numeral, and so is a double that
is neither infinite nor without a value: with a point or an exponent, so that it is read as
a double again, and by a decimal that denotes it (`Layout.writes_double`).  So what is
written for a number is read as that number (`readAtom_writeNumber`), if it is not an
integer that is too long to be read (`admitted`).
-/
import Mathlib.Data.List.Basic
import TemplateBuiltins.Json.Reader
import TemplateBuiltins.Json.Writer
import TemplateBuiltins.Proofs.Number.RoundTrip
import TemplateBuiltins.Value.Literal

set_option autoImplicit false

namespace TemplateBuiltins

/-! ## Numerals of JSON -/

/-- The number that a numeral of JSON denotes: an integer is exact. -/
def Numeral.literal (n : Numeral) : Number :=
  if n.fraction.isNone ∧ n.exponent.isNone then .int (Text.withSign n.negative (Text.digitsValue n.whole))
  else .double n.decimal.toDouble

namespace Json

/-- The characters with which a numeral goes on. -/
def goesOn (c : Char) : Bool := Text.isAsciiDigit c || c == '.' || c == 'e' || c == 'E'

variable {rest : List Char}

theorem stops_digits (ends : Text.Stops goesOn rest) : Text.Stops Text.isAsciiDigit rest := by
  intro c first
  have other := ends c first
  simp only [goesOn, Bool.or_eq_false_iff] at other
  exact other.1.1.1

theorem stops_exponentText (width : Nat) (e : Option Int) (ends : Text.Stops goesOn rest) :
    Text.Stops Text.isAsciiDigit (Numeral.exponentText width e ++ rest) := by
  cases e with
  | none => exact stops_digits ends
  | some e => exact Text.stops_cons (by decide)

theorem takeWhole_append {n : Numeral} (strict : n.Strict) (stops : Text.Stops Text.isAsciiDigit rest) :
    takeWhole (n.whole ++ rest) = some (n.whole, rest) := by
  have digits := strict.digits
  rcases strict.lead with zero | lead
  · rw [zero]
    rfl
  · obtain ⟨c, more, split⟩ := List.exists_cons_of_ne_nil strict.whole
    rw [split] at digits lead ⊢
    have other : c ≠ '0' := fun same => lead (same ▸ rfl)
    have digit : Text.isAsciiDigit c = true := digits c List.mem_cons_self
    have front := Text.takeWhile_append_of_stops digits stops
    have behind := Text.dropWhile_append_of_stops digits stops
    rw [List.cons_append] at front behind ⊢
    rw [takeWhole, if_neg other, if_pos digit, front, behind]

theorem takeFraction_append (fraction : Option (List Char)) (nonempty : ∀ ds ∈ fraction, ds ≠ [])
    (digits : ∀ ds ∈ fraction, ∀ c ∈ ds, Text.isAsciiDigit c = true)
    (stops : Text.Stops Text.isAsciiDigit rest) (pointless : rest.head? ≠ some '.') :
    takeFraction (Numeral.fractionText fraction ++ rest) = (fraction, rest) := by
  cases fraction with
  | none =>
      cases rest with
      | nil => rfl
      | cons c rest =>
          have other : c ≠ '.' := fun same => pointless (same ▸ rfl)
          exact if_neg fun point => other point.1
  | some ds =>
      have front := Text.takeWhile_append_of_stops (digits ds rfl) stops
      have behind := Text.dropWhile_append_of_stops (digits ds rfl) stops
      have some : (!ds.isEmpty) = true := by simpa using nonempty ds rfl
      simp only [Numeral.fractionText, List.cons_append, takeFraction, front, behind, some, and_self, if_true]

theorem takeExponent_append (width : Nat) (e : Option Int) (ends : Text.Stops goesOn rest) :
    takeExponent (Numeral.exponentText width e ++ rest) = (e, rest) := by
  cases e with
  | none =>
      cases rest with
      | nil => rfl
      | cons c rest =>
          have other := ends c rfl
          simp only [goesOn, Bool.or_eq_false_iff, beq_eq_false_iff_ne] at other
          refine if_neg fun letter => ?_
          rcases letter.1 with small | large
          · exact other.1.2 small
          · exact other.2 large
  | some e =>
      have run : ∀ c ∈ Text.padded width e.natAbs, Text.isAsciiDigit c = true :=
        fun c => Text.isAsciiDigit_of_mem_padded
      have nonempty : (!(Text.padded width e.natAbs).isEmpty) = true := by
        simp [Text.padded, Text.digits_ne_nil]
      have front := Text.takeWhile_append_of_stops run (stops_digits ends)
      have behind := Text.dropWhile_append_of_stops run (stops_digits ends)
      simp only [Numeral.exponentText, List.cons_append, takeExponent, Numeral.takeSign_exponent, front,
        behind, nonempty, Text.digitsValue_padded, Text.withSign_natAbs, true_or, and_self, if_true]

/-- A number is read part by part behind its sign. -/
theorem readNumber?_sign_append (negative : Bool) {s afterWhole afterFraction : List Char}
    {ds : List Char} {point : Option (List Char)} {power : Option Int} (unsigned : s.head? ≠ some '-')
    (whole : takeWhole s = some (ds, afterWhole)) (fraction : takeFraction afterWhole = (point, afterFraction))
    (exponent : takeExponent afterFraction = (power, rest)) :
    readNumber? (Layout.sign negative ++ s) = some (Numeral.literal ⟨negative, ds, point, power⟩, rest) := by
  unfold readNumber?
  split
  rename_i minus behind cut
  have parts : (minus, behind) = (negative, s) := by
    rw [← cut]
    cases negative with
    | true => rfl
    | false =>
        cases s with
        | nil => rfl
        | cons c s =>
            have other : c ≠ '-' := fun same => unsigned (same ▸ rfl)
            simp [Layout.sign, other]
  cases parts
  simp only [whole, fraction, exponent, Option.bind_eq_bind, Option.bind_some, Numeral.literal]

/-- **A numeral of JSON is read as it is written**, in front of whatever it does not go on with. -/
theorem readNumber?_text {n : Numeral} (strict : n.Strict) (width : Nat) (ends : Text.Stops goesOn rest) :
    readNumber? (n.text width ++ rest) = some (n.literal, rest) := by
  have afterFraction := stops_exponentText width n.exponent ends
  have pointless : (Numeral.exponentText width n.exponent ++ rest).head? ≠ some '.' := by
    cases n.exponent with
    | none => exact fun point => absurd (ends '.' point) (by decide)
    | some e => exact fun point => absurd (Option.some.inj point) (by decide)
  have afterWhole : Text.Stops Text.isAsciiDigit
      (Numeral.fractionText n.fraction ++ (Numeral.exponentText width n.exponent ++ rest)) := by
    cases n.fraction with
    | none => exact afterFraction
    | some ds => exact Text.stops_cons (by decide)
  have unsigned : (n.whole ++ (Numeral.fractionText n.fraction ++
      (Numeral.exponentText width n.exponent ++ rest))).head? ≠ some '-' := by
    obtain ⟨c, more, split⟩ := List.exists_cons_of_ne_nil strict.whole
    have digit := strict.digits c (split ▸ List.mem_cons_self)
    rw [split]
    exact fun minus => Numeral.ne_minus_of_isAsciiDigit digit (Option.some.inj minus)
  simp only [Numeral.text, List.append_assoc]
  exact readNumber?_sign_append n.negative unsigned (takeWhole_append strict afterWhole)
    (takeFraction_append n.fraction strict.pointed strict.fraction afterFraction pointless)
    (takeExponent_append width n.exponent ends)

end Json

/-! ## Integers -/

theorem Number.strict_int (n : Int) :
    Numeral.Strict ⟨decide (n < 0), Text.digits n.natAbs, none, none⟩ :=
  ⟨⟨Text.digits_ne_nil _, fun _ => Text.isAsciiDigit_of_mem_digits, by simp⟩, Text.digits_lead _, by simp⟩

/-! ## Doubles -/

namespace Decimal

/-- Zeros at the end of a coefficient count as much in the exponent. -/
theorem toDouble_zeros (negative : Bool) {c : Nat} (positive : 0 < c) (zeros : Nat) (e : Int) :
    toDouble ⟨negative, c * 10 ^ zeros, e⟩ = toDouble ⟨negative, c, e + zeros⟩ := by
  induction zeros generalizing e with
  | zero => rw [Nat.pow_zero, Nat.mul_one, Int.natCast_zero, Int.add_zero]
  | succ zeros ih =>
      have large : 0 < c * 10 ^ zeros := Nat.mul_pos positive (Nat.pow_pos (by decide))
      have tens : c * 10 ^ (zeros + 1) = c * 10 ^ zeros * 10 := by
        rw [Nat.pow_succ, Nat.mul_assoc]
      have shift := toDouble_shift ⟨negative, c * 10 ^ zeros * 10, e⟩
        ⟨Nat.mul_pos large (by decide), Nat.mul_mod_left _ _⟩
      simp only [Nat.mul_div_cancel _ (by decide : 0 < 10)] at shift
      rw [tens, ← shift, ih, Int.natCast_succ, Int.add_assoc, Int.add_comm 1]

/-- A decimal without a fraction, with a zero behind the point. -/
theorem toDouble_whole (d : Decimal) {e : Nat} (whole : d.exponent = e) (positive : 0 < d.coefficient) :
    toDouble ⟨d.negative, d.coefficient * 10 ^ (e + 1), -1⟩ = d.toDouble := by
  obtain ⟨negative, c, k⟩ := d
  have place : (-1 : Int) + (e + 1 : Nat) = k := by
    simp only at whole
    omega
  rw [toDouble_zeros negative positive, place]

end Decimal

namespace Layout

/-- The numeral of a decimal without a fraction: its digits, zeros up to the point, and one behind it. -/
def wholeNumeral (d : Decimal) (zeros : Nat) : Numeral :=
  ⟨d.negative, Text.digits d.coefficient ++ List.replicate zeros '0', some ['0'], none⟩

theorem strict_wholeNumeral (d : Decimal) {zeros : Nat} (zero : d.coefficient = 0 → zeros = 0) :
    (wholeNumeral d zeros).Strict := by
  have nonempty := Text.digits_ne_nil d.coefficient
  refine ⟨⟨?_, ?_, ?_⟩, ?_, by simp [wholeNumeral]⟩
  · simp [wholeNumeral, nonempty]
  · intro c inside
    rcases List.mem_append.1 inside with front | zeros
    · exact Text.isAsciiDigit_of_mem_digits front
    · rw [List.eq_of_mem_replicate zeros]
      decide
  · intro ds same c inside
    cases same
    rw [List.mem_singleton.1 inside]
    decide
  · rcases Nat.eq_zero_or_pos d.coefficient with none | positive
    · left
      rw [wholeNumeral, zero none, none, List.replicate_zero, List.append_nil, Text.digits_of_lt (by decide)]
      rfl
    · right
      have front := Text.head?_digits positive
      obtain ⟨c, more, split⟩ := List.exists_cons_of_ne_nil nonempty
      rw [wholeNumeral, split]
      rw [split] at front
      exact front

/-- Without a fraction and with few places, a decimal is written by that numeral. -/
theorem json_decimal_whole {d : Decimal} {e : Nat} (whole : d.exponent = e)
    (small : d.ceiling ≤ json.beyond) : json.decimal d = (wholeNumeral d e).text 0 := by
  have place := d.ceiling_eq
  have length := List.length_pos_iff.2 (Text.digits_ne_nil d.coefficient)
  have lowest : json.lowest = -4 := rfl
  have lead : ((Text.digits d.coefficient).length : Int) - 1 + d.exponent =
      Int.ofNat ((Text.digits d.coefficient).length - 1 + e) := by
    rw [whole, Int.ofNat_eq_natCast]
    omega
  have within : json.lowest ≤ Int.ofNat ((Text.digits d.coefficient).length - 1 + e) ∧
      Int.ofNat ((Text.digits d.coefficient).length - 1 + e) < json.beyond := by
    rw [← lead]
    omega
  have count : (Text.digits d.coefficient).length - 1 + e + 1 = (Text.digits d.coefficient).length + e := by
    omega
  simp only [decimal, lead, within, and_self, if_true, positional, count]
  simp [wholeNumeral, Numeral.text, Numeral.fractionText, Numeral.exponentText, List.take_of_length_le, json]

theorem writes_whole {d : Decimal} {e : Nat} (whole : d.exponent = e) (small : d.ceiling ≤ json.beyond)
    (zero : d.coefficient = 0 → e = 0) :
    Decimal.Writes ⟨d.negative, d.coefficient * 10 ^ (e + 1), -1⟩ (json.decimal d) := by
  have value := Text.digitsValue_append_replicate (Text.digits d.coefficient) (e + 1)
  rw [Text.digitsValue_digits, List.replicate_succ', ← List.append_assoc] at value
  exact ⟨wholeNumeral d e, 0, strict_wholeNumeral d zero, json_decimal_whole whole small,
    Numeral.decimal_eq rfl value rfl, by simp [wholeNumeral]⟩

/-- A zero keeps its sign. -/
theorem writes_zero (negative : Bool) :
    Decimal.Writes ⟨negative, 0, -1⟩ (json.double (Double.zero negative)) := by
  have small : Decimal.ceiling ⟨negative, 0, 0⟩ ≤ json.beyond := by
    have one : Decimal.digitCount 0 = 1 := Decimal.digitCount_of_lt (by decide)
    simp only [Decimal.ceiling, one, json]
    decide
  have written : Decimal.Writes ⟨negative, 0 * 10 ^ (0 + 1), -1⟩ (json.decimal ⟨negative, 0, 0⟩) :=
    writes_whole rfl small fun _ => rfl
  rw [Double.zero, double, if_pos rfl]
  exact written

/-- A finite double is written by a decimal that denotes it, with a point or an exponent. -/
theorem writes_double (negative : Bool) {m : Nat} {q : Int} (standard : Double.Standard m q) :
    ∃ d : Decimal, d.Writes (json.double (.finite negative m q standard)) ∧
      d.toDouble = .finite negative m q standard := by
  by_cases zero : m = 0
  · subst zero
    have least : q = Double.minExponent := by
      rcases standard.2.2.2 with large | least
      · exact absurd large (by decide)
      · exact least
    subst least
    exact ⟨_, writes_zero negative, if_pos rfl⟩
  · have denotes := Double.toDouble_shortest negative standard zero
    rw [double, if_neg zero]
    generalize Double.shortest negative m q = d at denotes ⊢
    by_cases pointed : d.exponent < 0 ∨ json.beyond < d.ceiling
    · exact ⟨d, writes_decimal json d pointed, denotes⟩
    -- the zero behind the point makes the text one of another decimal, which has the same double
    · obtain ⟨whole, small⟩ := not_or.1 pointed
      obtain ⟨e, exponent⟩ := Int.eq_ofNat_of_zero_le (Int.not_lt.1 whole)
      have nonzero : d.coefficient ≠ 0 := by
        intro none
        rw [Decimal.toDouble, if_pos none] at denotes
        cases denotes
        exact zero rfl
      refine ⟨_, writes_whole exponent (Int.not_lt.1 small) fun none => absurd none nonzero, ?_⟩
      exact (d.toDouble_whole exponent (Nat.pos_of_ne_zero nonzero)).trans denotes

end Layout

namespace Json

variable {rest : List Char}

/-! ## Numbers among values -/

/-- No word begins as a number does. -/
theorem words_ne_digit {c : Char} (digit : Text.isAsciiDigit c = true) :
    c ≠ 'n' ∧ c ≠ 't' ∧ c ≠ 'f' ∧ c ≠ 'N' ∧ c ≠ 'I' ∧ c ≠ '-' := by
  have digits : ∀ d < 10, Text.digitChar d ≠ 'n' ∧ Text.digitChar d ≠ 't' ∧ Text.digitChar d ≠ 'f' ∧
      Text.digitChar d ≠ 'N' ∧ Text.digitChar d ≠ 'I' ∧ Text.digitChar d ≠ '-' := by decide
  obtain ⟨d, small, rfl⟩ := Text.exists_digitChar digit
  exact digits d small

theorem admitted_of_isShowable {n : Number} (showable : n.isShowable = true) : admitted n = .ok (.number n) := by
  cases n with
  | int n =>
      rw [Number.isShowable] at showable
      rw [admitted, if_pos showable]
  | double x => rfl

theorem readAtom_number {s : List Char} {n : Number} (negative : Bool) {c : Char} {more : List Char}
    (begins : s = Layout.sign negative ++ c :: more) (digit : Text.isAsciiDigit c = true)
    (read : readNumber? s = some (n, rest)) : readAtom s = (admitted n).map fun j => (j, rest) := by
  obtain ⟨n₁, t, f, n₂, i, minus⟩ := words_ne_digit digit
  have others : ∀ w ∈ words, ¬ w.1.toList <+: s := by
    rw [begins]
    cases negative <;>
      simp [words, Layout.sign, List.cons_prefix_cons, Ne.symm n₁, Ne.symm t, Ne.symm f, Ne.symm n₂, Ne.symm i,
        Ne.symm minus]
  have none : (words.findSome? fun w => (w.1.toList.isPrefixOf? s).map fun rest => (w.2, rest)) = none := by
    rw [List.findSome?_eq_none_iff]
    intro w inside
    rw [Option.map_eq_none_iff, ← Option.not_isSome_iff_eq_none, List.isSome_isPrefixOf?_eq_isPrefixOf,
      List.isPrefixOf_iff_prefix]
    exact others w inside
  rw [readAtom, none, read]

theorem readAtom_text {n : Numeral} (strict : n.Strict) (width : Nat) (ends : Text.Stops goesOn rest) :
    readAtom (n.text width ++ rest) = (admitted n.literal).map fun j => (j, rest) := by
  have read := readNumber?_text strict width ends
  obtain ⟨c, more, split⟩ := List.exists_cons_of_ne_nil strict.whole
  have digit := strict.digits c (split ▸ List.mem_cons_self)
  have begins : n.text width ++ rest = Layout.sign n.negative ++ c :: (more ++
      (Numeral.fractionText n.fraction ++ (Numeral.exponentText width n.exponent ++ rest))) := by
    simp [Numeral.text, split]
  exact readAtom_number n.negative begins digit read

/-- **A written number is read back**: an integer as an integer, a double as a double. -/
theorem readAtom_writeNumber (n : Number) (ends : Text.Stops goesOn rest) :
    readAtom (writeNumber n ++ rest) = (admitted n).map fun j => (j, rest) := by
  cases n with
  | int n =>
      have literal : Numeral.literal ⟨decide (n < 0), Text.digits n.natAbs, none, none⟩ = .int n := by
        simp only [Numeral.literal, Option.isNone_none, and_self, if_true, Text.digitsValue_digits,
          Text.withSign_natAbs]
      rw [writeNumber, Number.signedDigits_eq_text, readAtom_text (Number.strict_int n) 0 ends, literal]
  | double x =>
      cases x with
      | nan => rfl
      | infinite negative => cases negative <;> rfl
      | finite negative m q standard =>
          obtain ⟨d, ⟨n, width, strict, text, denotes, pointed⟩, same⟩ :=
            Layout.writes_double negative standard
          have literal : n.literal = .double (.finite negative m q standard) := by
            rw [Numeral.literal, if_neg, denotes, same]
            rw [Option.isNone_iff_eq_none, Option.isNone_iff_eq_none]
            exact pointed
          rw [writeNumber, text, readAtom_text strict width ends, literal]

end Json

end TemplateBuiltins
