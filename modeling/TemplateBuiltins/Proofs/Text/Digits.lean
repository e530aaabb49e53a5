/-
# Proofs.Text.Digits -- decimal texts and the numbers that they denote

A number is the value of its digits (`digitsValue_digits`), and all of them are
ASCII digits.  Filling a text up with zeros on the left changes nothing in its
value; where the number has at most as many digits as the width, the filled text
is its last digits one by one (`padded_eq_lastDigits`).  So numbers below a power of
ten and fields of that many ASCII digits stand one to one (`digitsValue_lastDigits`,
`lastDigits_digitsValue`).
-/
import Mathlib.Algebra.Ring.Nat
import Mathlib.Data.List.Induction
import Mathlib.Tactic.Ring
import TemplateBuiltins.Text.Digit

set_option autoImplicit false

namespace TemplateBuiltins.Text

/-! ## Single digits -/

theorem digit?_digitChar {d : Nat} (small : d < 10) : digit? (digitChar d) = some d := by
  have all : ∀ d < 10, digit? (digitChar d) = some d := by decide
  exact all d small

theorem isAsciiDigit_digitChar {d : Nat} (small : d < 10) : isAsciiDigit (digitChar d) = true := by
  have all : ∀ d < 10, isAsciiDigit (digitChar d) = true := by decide
  exact all d small

/-- The ASCII digits are those that are written. -/
theorem exists_digitChar {c : Char} (digit : isAsciiDigit c = true) : ∃ d < 10, c = digitChar d := by
  unfold isAsciiDigit asciiDigit? at digit
  split at digit
  · rename_i range
    refine ⟨c.toNat - '0'.toNat, by omega, ?_⟩
    rw [digitChar, Nat.add_sub_cancel' range.1, Char.ofNat_toNat]
  · cases digit

theorem isDigit_of_isAsciiDigit {c : Char} (digit : isAsciiDigit c = true) : isDigit c = true := by
  obtain ⟨d, small, rfl⟩ := exists_digitChar digit
  rw [isDigit, digit?_digitChar small]
  rfl

/-! ## Values -/

theorem digitsValue_append_singleton (ds : List Char) (c : Char) :
    digitsValue (ds ++ [c]) = 10 * digitsValue ds + (digit? c).getD 0 := by
  simp [digitsValue]

/-- Each digit behind some others counts these ten times. -/
theorem digitsValue_append (xs ys : List Char) :
    digitsValue (xs ++ ys) = digitsValue xs * 10 ^ ys.length + digitsValue ys := by
  induction ys using List.reverseRecOn with
  | nil => simp [digitsValue]
  | append_singleton ys c ih =>
      rw [← List.append_assoc, digitsValue_append_singleton, digitsValue_append_singleton, ih, List.length_append,
        List.length_singleton, Nat.pow_succ]
      ring

theorem digitsValue_replicate (zeros : Nat) : digitsValue (List.replicate zeros '0') = 0 := by
  induction zeros with
  | zero => rfl
  | succ zeros ih =>
      rw [← ih]
      rfl

/-- Zeros in front do not count. -/
theorem digitsValue_replicate_append (zeros : Nat) (ds : List Char) :
    digitsValue (List.replicate zeros '0' ++ ds) = digitsValue ds := by
  rw [digitsValue_append, digitsValue_replicate, Nat.zero_mul, Nat.zero_add]

/-- Each zero at the end counts ten times. -/
theorem digitsValue_append_replicate (ds : List Char) (zeros : Nat) :
    digitsValue (ds ++ List.replicate zeros '0') = digitsValue ds * 10 ^ zeros := by
  rw [digitsValue_append, digitsValue_replicate, List.length_replicate, Nat.add_zero]

/-! ## Digits of a number -/

theorem digitsOnto_eq (n : Nat) (rest : List Char) : digitsOnto n rest = digits n ++ rest := by
  induction n using Nat.strongRecOn generalizing rest with
  | _ n ih =>
      rcases Nat.lt_or_ge n 10 with small | large
      · rw [digits, digitsOnto, if_pos small, digitsOnto, if_pos small]
        rfl
      · have step (behind : List Char) :
            digitsOnto n behind = digitsOnto (n / 10) (digitChar (n % 10) :: behind) := by
          rw [digitsOnto, if_neg (by omega)]
        rw [digits, step rest, step [], ih (n / 10) (by omega), ih (n / 10) (by omega),
          List.append_assoc]
        rfl

theorem digits_of_lt {n : Nat} (small : n < 10) : digits n = [digitChar n] := by
  rw [digits, digitsOnto, if_pos small]

theorem digits_of_le {n : Nat} (large : 10 ≤ n) :
    digits n = digits (n / 10) ++ [digitChar (n % 10)] := by
  rw [digits, digitsOnto, if_neg (by omega), digitsOnto_eq]

theorem digits_ne_nil (n : Nat) : digits n ≠ [] := by
  rcases Nat.lt_or_ge n 10 with small | large
  · simp [digits_of_lt small]
  · simp [digits_of_le large]

/-- A number that is not zero begins with a digit that is not. -/
theorem head?_digits {n : Nat} (positive : 0 < n) : (digits n).head? ≠ some '0' := by
  induction n using Nat.strongRecOn with
  | _ n ih =>
      rcases Nat.lt_or_ge n 10 with small | large
      · have others : ∀ d < 10, 0 < d → digitChar d ≠ '0' := by decide
        rw [digits_of_lt small]
        exact fun zero => others n small positive (Option.some.inj zero)
      · have front := ih (n / 10) (by omega) (by omega)
        obtain ⟨c, more, split⟩ := List.exists_cons_of_ne_nil (digits_ne_nil (n / 10))
        rw [digits_of_le large, split]
        rw [split] at front
        exact front

theorem digits_lead (n : Nat) : digits n = ['0'] ∨ (digits n).head? ≠ some '0' := by
  rcases Nat.eq_zero_or_pos n with rfl | positive
  · exact .inl (digits_of_lt (by decide))
  · exact .inr (head?_digits positive)

theorem isAsciiDigit_of_mem_digits {n : Nat} {c : Char} (inside : c ∈ digits n) :
    isAsciiDigit c = true := by
  induction n using Nat.strongRecOn with
  | _ n ih =>
      rcases Nat.lt_or_ge n 10 with small | large
      · rw [digits_of_lt small, List.mem_singleton] at inside
        exact inside ▸ isAsciiDigit_digitChar small
      · rw [digits_of_le large, List.mem_append, List.mem_singleton] at inside
        rcases inside with front | last
        · exact ih (n / 10) (by omega) front
        · exact last ▸ isAsciiDigit_digitChar (Nat.mod_lt n (by decide))

/-- A number is the value of its digits. -/
theorem digitsValue_digits (n : Nat) : digitsValue (digits n) = n := by
  induction n using Nat.strongRecOn with
  | _ n ih =>
      rcases Nat.lt_or_ge n 10 with small | large
      · simp [digits_of_lt small, digitsValue, digit?_digitChar small]
      · rw [digits_of_le large, digitsValue_append_singleton, ih (n / 10) (by omega),
          digit?_digitChar (Nat.mod_lt n (by decide)), Option.getD_some]
        omega

theorem digitsValue_padded (width n : Nat) : digitsValue (padded width n) = n := by
  rw [padded, digitsValue_replicate_append, digitsValue_digits]

/-- Zeros in front are digits too. -/
theorem isAsciiDigit_of_mem_replicate_append {zeros : Nat} {ds : List Char} {c : Char}
    (digits : ∀ c ∈ ds, isAsciiDigit c = true) (inside : c ∈ List.replicate zeros '0' ++ ds) :
    isAsciiDigit c = true := by
  rcases List.mem_append.1 inside with zero | digit
  · rw [(List.mem_replicate.1 zero).2]
    decide
  · exact digits c digit

theorem isAsciiDigit_of_mem_padded {width n : Nat} {c : Char} (inside : c ∈ padded width n) :
    isAsciiDigit c = true :=
  isAsciiDigit_of_mem_replicate_append (fun _ => isAsciiDigit_of_mem_digits) inside

/-! ## Signs -/

theorem withSign_true (n : Nat) : withSign true n = -(n : Int) := rfl

theorem withSign_false (n : Nat) : withSign false n = n := rfl

theorem withSign_zero (negative : Bool) : withSign negative 0 = 0 := by
  cases negative <;> rfl

theorem withSign_mul (negative : Bool) (a k : Nat) :
    withSign negative a * k = withSign negative (a * k) := by
  cases negative
  · exact (Int.natCast_mul a k).symm
  · rw [withSign_true, withSign_true, Int.neg_mul, Int.natCast_mul]

theorem natAbs_withSign (negative : Bool) (n : Nat) : (withSign negative n).natAbs = n := by
  cases negative
  · exact Int.natAbs_natCast n
  · rw [withSign_true, Int.natAbs_neg, Int.natAbs_natCast]

theorem withSign_lt_zero_iff {a : Nat} (positive : 0 < a) (negative : Bool) :
    withSign negative a < 0 ↔ negative = true := by
  cases negative with
  | true =>
      rw [withSign_true]
      simpa using positive
  | false =>
      rw [withSign_false]
      simp

theorem withSign_natAbs (n : Int) : withSign (decide (n < 0)) n.natAbs = n := by
  by_cases below : n < 0
  · rw [decide_eq_true below, withSign_true]
    omega
  · rw [decide_eq_false below, withSign_false]
    omega

/-! ## Fields of a fixed width -/

/-- The last digits of a number, as many as the width. -/
def lastDigits : Nat → Nat → List Char
  | 0, _ => []
  | width + 1, n => lastDigits width (n / 10) ++ [digitChar (n % 10)]

theorem length_lastDigits (width n : Nat) : (lastDigits width n).length = width := by
  induction width generalizing n with
  | zero => rfl
  | succ width ih => simp [lastDigits, ih]

theorem lastDigits_zero (width : Nat) : lastDigits width 0 = List.replicate width '0' := by
  induction width with
  | zero => rfl
  | succ width ih =>
      rw [lastDigits, ih, List.replicate_succ']
      rfl

theorem isAsciiDigit_of_mem_lastDigits {width n : Nat} {c : Char} (inside : c ∈ lastDigits width n) :
    isAsciiDigit c = true := by
  induction width generalizing n with
  | zero => simp [lastDigits] at inside
  | succ width ih =>
      rw [lastDigits, List.mem_append, List.mem_singleton] at inside
      rcases inside with front | last
      · exact ih front
      · exact last ▸ isAsciiDigit_digitChar (Nat.mod_lt n (by decide))

/-- A field that has room for a number has its value. -/
theorem digitsValue_lastDigits {width n : Nat} (fits : n < 10 ^ width) :
    digitsValue (lastDigits width n) = n := by
  induction width generalizing n with
  | zero =>
      have zero : n = 0 := by simpa using fits
      simp [zero, lastDigits, digitsValue]
  | succ width ih =>
      have shorter : n / 10 < 10 ^ width := by
        rw [Nat.pow_succ] at fits
        omega
      rw [lastDigits, digitsValue_append_singleton, ih shorter,
        digit?_digitChar (Nat.mod_lt n (by decide)), Option.getD_some]
      omega

/-- ASCII digits are the field of their value. -/
theorem lastDigits_digitsValue {ds : List Char} (digits : ∀ c ∈ ds, isAsciiDigit c = true) :
    lastDigits ds.length (digitsValue ds) = ds := by
  induction ds using List.reverseRecOn with
  | nil => rfl
  | append_singleton ds c ih =>
      obtain ⟨d, small, rfl⟩ := exists_digitChar (digits c (by simp))
      have front := ih fun e inside => digits e (by simp [inside])
      have value : digitsValue (ds ++ [digitChar d]) = 10 * digitsValue ds + d := by
        rw [digitsValue_append_singleton, digit?_digitChar small, Option.getD_some]
      have quotient : (10 * digitsValue ds + d) / 10 = digitsValue ds := by omega
      have rest : (10 * digitsValue ds + d) % 10 = d := by omega
      rw [List.length_append, List.length_singleton, lastDigits, value, quotient, rest, front]

/-- A field shows all digits of a number that it has room for. -/
theorem padded_eq_lastDigits (width n : Nat) (fits : n < 10 ^ (width + 1)) :
    padded (width + 1) n = lastDigits (width + 1) n := by
  induction width generalizing n with
  | zero =>
      have small : n < 10 := by simpa using fits
      simp [padded, lastDigits, digits_of_lt small, Nat.mod_eq_of_lt small]
  | succ width ih =>
      rcases Nat.lt_or_ge n 10 with small | large
      · rw [lastDigits, Nat.div_eq_of_lt small, Nat.mod_eq_of_lt small, lastDigits_zero, padded,
          digits_of_lt small]
        rfl
      · have shorter : n / 10 < 10 ^ (width + 1) := by
          rw [Nat.pow_succ] at fits
          omega
        rw [lastDigits, ← ih (n / 10) shorter, padded, padded, digits_of_le large, List.length_append,
          List.length_singleton, Nat.add_sub_add_right, List.append_assoc]

/-! ## How long a number is -/

/-- A number has no more digits than the power of ten above it has zeros. -/
theorem length_digits_le_iff (n : Nat) {width : Nat} (positive : 0 < width) :
    (digits n).length ≤ width ↔ n < 10 ^ width := by
  induction width, positive using Nat.le_induction generalizing n with
  | base =>
      rcases Nat.lt_or_ge n 10 with small | large
      · simp [digits_of_lt small, small]
      · have some := List.length_pos_iff.2 (digits_ne_nil (n / 10))
        rw [digits_of_le large, List.length_append, List.length_singleton]
        omega
  | succ width positive ih =>
      rcases Nat.lt_or_ge n 10 with small | large
      · have fits : n < 10 ^ (width + 1) := Nat.lt_of_lt_of_le small (Nat.le_self_pow (by simp) 10)
        simp [digits_of_lt small, fits]
      · rw [digits_of_le large, List.length_append, List.length_singleton, Nat.succ_le_succ_iff, ih,
          Nat.pow_succ 10 width]
        omega

theorem decide_lt_pow_iff (n width : Nat) : decide (n < Nat.pow 10 width) = true ↔ n < 10 ^ width :=
  decide_eq_true_iff

theorem isWritable_iff (n : Int) : isWritable n = true ↔ n.natAbs < 10 ^ digitLimit :=
  decide_lt_pow_iff n.natAbs digitLimit

/-- The integers that are written are those without too many digits. -/
theorem isWritable_iff_length (n : Int) : isWritable n = true ↔ (digits n.natAbs).length ≤ digitLimit := by
  rw [isWritable_iff, length_digits_le_iff n.natAbs (show 0 < digitLimit by decide)]

end TemplateBuiltins.Text
