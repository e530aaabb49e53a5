/-
# Proofs.Number.Layout -- the numerals that decimals are written as

A decimal is written as a numeral of its digits: with one digit in front of the point and the
exponent of that digit behind (`Decimal.scientificNumeral`), or with the point at its own place, if it
has a fraction (`Decimal.positionalNumeral`).  Either numeral is the decimal itself, so its
text denotes the decimal, whatever the layout is that chooses between them.

Where the coefficient of the decimal does not end in zero, neither does the fraction of the
numeral (`Numeral.Trimmed`).
-/
import TemplateBuiltins.Proofs.Number.Numeral

set_option autoImplicit false

namespace TemplateBuiltins

theorem Numeral.decimal_eq {n : Numeral} {d : Decimal} (sign : n.negative = d.negative)
    (value : Text.digitsValue (n.whole ++ n.fraction.getD []) = d.coefficient)
    (place : n.exponent.getD 0 - (n.fraction.getD []).length = d.exponent) : n.decimal = d := by
  simp only [decimal, sign, value, place]

namespace Decimal

variable (d : Decimal)

theorem ceiling_eq : d.ceiling = (Text.digits d.coefficient).length + d.exponent := rfl

/-! ## With an exponent -/

/-- The digits behind a point, if there are any. -/
def behindPoint : List Char → Option (List Char)
  | [] => none
  | ds => some ds

theorem getD_behindPoint (ds : List Char) : (behindPoint ds).getD [] = ds := by cases ds <;> rfl

theorem mem_behindPoint {ds fraction : List Char} (inside : fraction ∈ behindPoint ds) :
    fraction = ds ∧ ds ≠ [] := by
  cases ds with
  | nil => cases inside
  | cons c ds =>
      cases inside
      exact ⟨rfl, List.cons_ne_nil c ds⟩

/-- One digit, the others behind the point, and the exponent of the first. -/
def scientificNumeral : Numeral :=
  ⟨d.negative, (Text.digits d.coefficient).take 1, behindPoint ((Text.digits d.coefficient).drop 1),
    some (d.ceiling - 1)⟩

theorem exists_lead_scientificNumeral :
    ∃ c, (Text.digits d.coefficient).head? = some c ∧ d.scientificNumeral.whole = [c] := by
  obtain ⟨c, rest, split⟩ := List.exists_cons_of_ne_nil (Text.digits_ne_nil d.coefficient)
  exact ⟨c, by rw [split]; rfl, by rw [scientificNumeral, split]; rfl⟩

theorem strict_scientificNumeral : d.scientificNumeral.Strict := by
  obtain ⟨c, lead, whole⟩ := d.exists_lead_scientificNumeral
  have digits {c : Char} := Text.isAsciiDigit_of_mem_digits (n := d.coefficient) (c := c)
  refine ⟨⟨by simp [whole], fun c inside => digits (List.mem_of_mem_take inside), ?_⟩, ?_, ?_⟩
  · intro ds behind c inside
    obtain ⟨rfl, -⟩ := mem_behindPoint behind
    exact digits (List.mem_of_mem_drop inside)
  · rw [whole]
    exact Numeral.lead_singleton c
  · intro ds behind
    obtain ⟨rfl, some⟩ := mem_behindPoint behind
    exact some

theorem decimal_scientificNumeral : d.scientificNumeral.decimal = d := by
  have place := d.ceiling_eq
  have length := List.length_pos_iff.2 (Text.digits_ne_nil d.coefficient)
  refine Numeral.decimal_eq rfl ?_ ?_
  · rw [scientificNumeral, getD_behindPoint, List.take_append_drop, Text.digitsValue_digits]
  · rw [scientificNumeral, getD_behindPoint, Option.getD_some, List.length_drop]
    omega

theorem text_scientificNumeral (layout : Layout) :
    Layout.sign d.negative ++ layout.scientific (Text.digits d.coefficient) (d.ceiling - 1) =
      d.scientificNumeral.text layout.exponentDigits := by
  rw [Layout.scientific, Numeral.text, scientificNumeral]
  cases (Text.digits d.coefficient).drop 1 <;>
    simp [behindPoint, Numeral.fractionText, Numeral.exponentText]

/-! ## Without an exponent -/

/-- All digits with the point at its place, zeros where the decimal has none. -/
def positionalNumeral : Numeral :=
  match d.ceiling - 1 with
  | .ofNat k =>
      ⟨d.negative, (Text.digits d.coefficient).take (k + 1), some ((Text.digits d.coefficient).drop (k + 1)), none⟩
  | .negSucc k => ⟨d.negative, ['0'], some (List.replicate k '0' ++ Text.digits d.coefficient), none⟩

theorem exponent_positionalNumeral : d.positionalNumeral.exponent = none := by
  rw [positionalNumeral]
  split <;> rfl

theorem negative_positionalNumeral : d.positionalNumeral.negative = d.negative := by
  rw [positionalNumeral]
  split <;> rfl

theorem fraction_positionalNumeral : d.positionalNumeral.fraction ≠ none := by
  rw [positionalNumeral]
  split <;> exact nofun

section Fraction

variable {d} (fraction : d.exponent < 0)

include fraction

/-- Some digits stand behind the point. -/
theorem lt_length_digits {k : Nat} (lead : d.ceiling - 1 = .ofNat k) :
    k + 1 < (Text.digits d.coefficient).length := by
  have place := d.ceiling_eq
  rw [Int.ofNat_eq_natCast] at lead
  omega

theorem strict_positionalNumeral : d.positionalNumeral.Strict := by
  have digits {c : Char} := Text.isAsciiDigit_of_mem_digits (n := d.coefficient) (c := c)
  cases lead : d.ceiling - 1 with
  | ofNat k =>
      have long := lt_length_digits fraction lead
      simp only [positionalNumeral, lead]
      refine ⟨⟨?_, fun c inside => digits (List.mem_of_mem_take inside), ?_⟩, ?_, ?_⟩
      · rw [← List.length_pos_iff, List.length_take]
        omega
      · rintro ds ⟨⟩ c inside
        exact digits (List.mem_of_mem_drop inside)
      · right
        rcases Text.digits_lead d.coefficient with zero | front
        · rw [zero, List.length_singleton] at long
          omega
        · simpa [List.head?_take] using front
      · rintro ds ⟨⟩
        rw [← List.length_pos_iff, List.length_drop]
        omega
  | negSucc k =>
      simp only [positionalNumeral, lead]
      refine ⟨⟨by simp, ?_, ?_⟩, .inl rfl, ?_⟩
      · intro c zero
        rw [List.mem_singleton.1 zero]
        decide
      · rintro ds ⟨⟩ c inside
        exact Text.isAsciiDigit_of_mem_replicate_append (fun _ => digits) inside
      · rintro ds ⟨⟩ none
        exact Text.digits_ne_nil d.coefficient (List.append_eq_nil_iff.1 none).2

theorem decimal_positionalNumeral : d.positionalNumeral.decimal = d := by
  have place := d.ceiling_eq
  cases lead : d.ceiling - 1 with
  | ofNat k =>
      have long := lt_length_digits fraction lead
      simp only [positionalNumeral, lead]
      refine Numeral.decimal_eq rfl ?_ ?_
      · rw [Option.getD_some, List.take_append_drop, Text.digitsValue_digits]
      · rw [Option.getD_some, Option.getD_none, List.length_drop]
        rw [Int.ofNat_eq_natCast] at lead
        omega
  | negSucc k =>
      simp only [positionalNumeral, lead]
      refine Numeral.decimal_eq rfl ?_ ?_
      · rw [Option.getD_some, ← List.append_assoc]
        exact (Text.digitsValue_replicate_append (k + 1) _).trans (Text.digitsValue_digits d.coefficient)
      · rw [Option.getD_some, Option.getD_none, List.length_append, List.length_replicate]
        omega

theorem text_positionalNumeral (layout : Layout) (width : Nat) :
    Layout.sign d.negative ++ layout.positional (Text.digits d.coefficient) (d.ceiling - 1) =
      d.positionalNumeral.text width := by
  cases lead : d.ceiling - 1 with
  | ofNat k =>
      have long := lt_length_digits fraction lead
      have filled : k + 1 - (Text.digits d.coefficient).length = 0 := by omega
      have behind : ((Text.digits d.coefficient).drop (k + 1)).isEmpty = false := by simp [long]
      simp [Layout.positional, positionalNumeral, lead, filled, behind, Numeral.text, Numeral.fractionText,
        Numeral.exponentText]
  | negSucc k =>
      simp [Layout.positional, positionalNumeral, lead, Numeral.text, Numeral.fractionText, Numeral.exponentText]

end Fraction

end Decimal

/-! ## Layouts -/

namespace Layout

variable (layout : Layout) {d : Decimal}

theorem decimal_eq (d : Decimal) :
    layout.decimal d = sign d.negative ++
      if layout.lowest ≤ d.ceiling - 1 ∧ d.ceiling - 1 < layout.beyond then
        layout.positional (Text.digits d.coefficient) (d.ceiling - 1)
      else layout.scientific (Text.digits d.coefficient) (d.ceiling - 1) := by
  have lead : ((Text.digits d.coefficient).length : Int) - 1 + d.exponent = d.ceiling - 1 := by
    rw [d.ceiling_eq]
    omega
  simp only [decimal, lead]

theorem decimal_of_within (fraction : d.exponent < 0)
    (within : layout.lowest ≤ d.ceiling - 1 ∧ d.ceiling - 1 < layout.beyond) :
    layout.decimal d = d.positionalNumeral.text 0 := by
  rw [decimal_eq, if_pos within]
  exact Decimal.text_positionalNumeral fraction layout 0

theorem decimal_of_not_within (without : ¬ (layout.lowest ≤ d.ceiling - 1 ∧ d.ceiling - 1 < layout.beyond)) :
    layout.decimal d = d.scientificNumeral.text layout.exponentDigits := by
  rw [decimal_eq, if_neg without]
  exact d.text_scientificNumeral layout

end Layout

/-! ## Trimmed fractions -/

/-- The digits behind the point do not end in zero. -/
def Numeral.Trimmed (n : Numeral) : Prop := ∀ ds ∈ n.fraction, ds.getLast? ≠ some '0'

theorem Text.getLast?_digits {n : Nat} (even : n % 10 ≠ 0) : (digits n).getLast? ≠ some '0' := by
  have others : ∀ d < 10, d ≠ 0 → digitChar d ≠ '0' := by decide
  have last : (digits n).getLast? = some (digitChar (n % 10)) := by
    rcases Nat.lt_or_ge n 10 with small | large
    · rw [digits_of_lt small, Nat.mod_eq_of_lt small]
      rfl
    · rw [digits_of_le large, List.getLast?_concat]
  rw [last]
  exact fun zero => others _ (Nat.mod_lt n (by decide)) even (Option.some.inj zero)

namespace Decimal

variable {d : Decimal} (stripped : d.coefficient % 10 ≠ 0)

include stripped

theorem trimmed_scientificNumeral : d.scientificNumeral.Trimmed := by
  intro ds behind
  obtain ⟨rfl, some⟩ := mem_behindPoint behind
  rw [List.getLast?_drop, if_neg (mt List.drop_eq_nil_of_le some)]
  exact Text.getLast?_digits stripped

theorem trimmed_positionalNumeral (fraction : d.exponent < 0) : d.positionalNumeral.Trimmed := by
  cases lead : d.ceiling - 1 with
  | ofNat k =>
      have long := lt_length_digits fraction lead
      simp only [positionalNumeral, lead]
      rintro ds ⟨⟩
      rw [List.getLast?_drop, if_neg (Nat.not_le.2 long)]
      exact Text.getLast?_digits stripped
  | negSucc k =>
      simp only [positionalNumeral, lead]
      rintro ds ⟨⟩
      rw [List.getLast?_append_of_ne_nil _ (Text.digits_ne_nil _)]
      exact Text.getLast?_digits stripped

end Decimal

end TemplateBuiltins
