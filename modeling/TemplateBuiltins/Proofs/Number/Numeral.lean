/-
# Proofs.Number.Numeral -- a written numeral is read back

A numeral has a text of its own (`Numeral.text`): its sign if it is negative, its
digits with a point among them if it has a fraction, and its exponent with a sign.  If
all its digits are ASCII digits and one of them stands in front (`Numeral.Plain`),
that text spells the numeral (`Plain.spells`).  It has no blanks, so the number that it
denotes is the numeral's (`Number.ofText_text`).
-/
import TemplateBuiltins.Number.Layout
import TemplateBuiltins.Proofs.Number.Spelling

set_option autoImplicit false

namespace TemplateBuiltins

namespace Numeral

/-! ## Texts of numerals -/

/-- The exponent with its sign, and with so many digits at least. -/
def exponentText (width : Nat) : Option Int → List Char
  | none => []
  | some e => 'e' :: (if e < 0 then '-' else '+') :: Text.padded width e.natAbs

def text (width : Nat) (n : Numeral) : List Char :=
  Layout.sign n.negative ++ (n.whole ++ (fractionText n.fraction ++ exponentText width n.exponent))

structure Plain (n : Numeral) : Prop where
  whole : n.whole ≠ []
  digits : ∀ c ∈ n.whole, Text.isAsciiDigit c = true
  fraction : ∀ ds ∈ n.fraction, ∀ c ∈ ds, Text.isAsciiDigit c = true

/-- A plain numeral without superfluous zeros in front, and with digits behind its point. -/
structure Strict (n : Numeral) : Prop extends n.Plain where
  lead : n.whole = ['0'] ∨ n.whole.head? ≠ some '0'
  pointed : ∀ ds ∈ n.fraction, ds ≠ []

/-- A digit that stands alone is not superfluous. -/
theorem lead_singleton (c : Char) : [c] = ['0'] ∨ [c].head? ≠ some '0' := by
  by_cases zero : c = '0'
  · exact .inl (congrArg (· :: []) zero)
  · exact .inr fun same => zero (Option.some.inj same)

/-! ## Classes of characters -/

/-- The characters of which numerals are written. -/
def isWritten (c : Char) : Bool := Text.isAsciiDigit c || ['.', 'e', '+', '-'].contains c

theorem not_blank_of_isWritten {c : Char} (written : isWritten c = true) : Text.isBlank c = false := by
  have digits : ∀ d < 10, Text.isBlank (Text.digitChar d) = false := by decide
  rcases Bool.or_eq_true_iff.1 written with digit | mark
  · obtain ⟨d, small, rfl⟩ := Text.exists_digitChar digit
    exact digits d small
  · simp only [List.contains_cons, List.contains_nil, Bool.or_false, Bool.or_eq_true, beq_iff_eq] at mark
    rcases mark with rfl | rfl | rfl | rfl <;> decide

theorem ne_minus_of_isAsciiDigit {c : Char} (digit : Text.isAsciiDigit c = true) : c ≠ '-' := by
  rintro rfl
  revert digit
  decide

theorem isWritten_of_mem_text {n : Numeral} (plain : n.Plain) {width : Nat} {c : Char} (inside : c ∈ n.text width) :
    isWritten c = true := by
  have digit {c : Char} (digit : Text.isAsciiDigit c = true) : isWritten c = true := by
    rw [isWritten, digit, Bool.true_or]
  obtain ⟨negative, whole, fraction, exponent⟩ := n
  simp only [text, List.mem_append] at inside
  rcases inside with sign | front | point | power
  · cases negative with
    | false => cases sign
    | true => exact List.mem_singleton.1 sign ▸ rfl
  · exact digit (plain.digits c front)
  · cases fraction with
    | none => cases point
    | some ds =>
        rcases List.mem_cons.1 point with rfl | behind
        · rfl
        · exact digit (plain.fraction ds rfl c behind)
  · cases exponent with
    | none => cases power
    | some e =>
        rcases List.mem_cons.1 power with rfl | behind
        · rfl
        · rcases List.mem_cons.1 behind with rfl | ds
          · split <;> rfl
          · exact digit (Text.isAsciiDigit_of_mem_padded ds)

/-! ## Reading -/

theorem takeSign_exponent (e : Int) (s : List Char) :
    takeSign ((if e < 0 then '-' else '+') :: s) = (decide (e < 0), s) := by
  by_cases below : e < 0
  · rw [if_pos below, decide_eq_true below]
    rfl
  · rw [if_neg below, decide_eq_false below]
    rfl

theorem sign_layout (negative : Bool) : Sign negative (Layout.sign negative) := by
  cases negative with
  | true => exact .minus
  | false => exact .none

theorem exponent_exponentText (width : Nat) (e : Option Int) : Exponent e (exponentText width e) := by
  cases e with
  | none => exact .none
  | some e =>
      have signed : Sign (decide (e < 0)) [if e < 0 then '-' else '+'] := by
        by_cases below : e < 0
        · rw [if_pos below, decide_eq_true below]
          exact .minus
        · rw [if_neg below, decide_eq_false below]
          exact .plus
      have nonempty : Text.padded width e.natAbs ≠ [] := by simp [Text.padded, Text.digits_ne_nil]
      have written := Exponent.some (.inl rfl : 'e' = 'e' ∨ 'e' = 'E') signed nonempty fun c inside =>
        Text.isDigit_of_isAsciiDigit (Text.isAsciiDigit_of_mem_padded inside)
      rw [Text.digitsValue_padded, Text.withSign_natAbs] at written
      exact written

/-- **A plain numeral is spelled by its text.** -/
theorem Plain.spells {n : Numeral} (plain : n.Plain) (width : Nat) : n.Spells (n.text width) where
  text := ⟨_, _, sign_layout n.negative, exponent_exponentText width n.exponent, rfl⟩
  whole := fun c inside => Text.isDigit_of_isAsciiDigit (plain.digits c inside)
  fraction := fun ds given c inside => Text.isDigit_of_isAsciiDigit (plain.fraction ds given c inside)
  nonempty := fun empty => absurd empty plain.whole

end Numeral

namespace Number

/-- **The number of a plain numeral's text is the numeral's.** -/
theorem ofText_text {n : Numeral} (plain : n.Plain) (width : Nat) : ofText (n.text width) = n.number := by
  have solid : Text.trim ([] ++ n.text width ++ []) = n.text width :=
    Text.trim_append (by simp) fun c inside =>
      Numeral.not_blank_of_isWritten (Numeral.isWritten_of_mem_text plain inside)
  rw [List.nil_append, List.append_nil] at solid
  rw [ofText, solid, ofTrimmed_of_spells (plain.spells width)]

end Number

end TemplateBuiltins
