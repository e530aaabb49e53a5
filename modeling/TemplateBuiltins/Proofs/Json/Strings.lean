/-
# Proofs.Json.Strings -- a text that is written as JSON is read back

A character is written in one of four ways: as itself, by the letter of its escape, by its
16-bit unit, or, beyond U+FFFF, by the two units of its pair.  In each of them the reader
finds its units (`readUnits_writeChar`), and from units it puts the characters together
again, since no character is a half of a pair (`joinUnits_units`).
-/
import TemplateBuiltins.Json.Reader
import TemplateBuiltins.Json.Writer

set_option autoImplicit false

namespace TemplateBuiltins.Json

/-! ## Units -/

/-- The 16-bit units of a character. -/
def unitsOf (c : Char) : List Nat :=
  if c.toNat < 0x10000 then [c.toNat] else [highSurrogate c.toNat, lowSurrogate c.toNat]

theorem hexValue?_hexDigit {d : Nat} (small : d < 16) : hexValue? (Text.hexDigit d) = some d := by
  have all : ∀ d < 16, hexValue? (Text.hexDigit d) = some d := by decide
  exact all d small

/-- A unit is read from its four digits. -/
theorem exists_hexDigits {unit : Nat} (small : unit < 0x10000) :
    ∃ a b c d, Text.hexDigits 4 unit = [a, b, c, d] ∧ unit? a b c d = some unit := by
  refine ⟨_, _, _, _, rfl, ?_⟩
  simp only [unit?, hexValue?_hexDigit (Nat.mod_lt _ (by decide : 0 < 16)), Option.bind_eq_bind,
    Option.bind_some]
  congr 1
  omega

theorem readUnits_unitEscape (opening : List Char) {unit : Nat} (small : unit < 0x10000)
    {more : List Char} (follows : more ≠ []) :
    readUnits opening (unitEscape unit ++ more) =
      (readUnits opening more).map fun r => (unit :: r.1, r.2) := by
  obtain ⟨a, b, c, d, digits, value⟩ := exists_hexDigits small
  rw [unitEscape, digits]
  simp only [List.cons_append, List.nil_append]
  rw [readUnits]
  simp [value, follows]

theorem readUnits_escaped (opening : List Char) {e x : Char} (other : e ≠ 'u')
    (letter : escaped? e = some x) (more : List Char) :
    readUnits opening ('\\' :: e :: more) =
      (readUnits opening more).map fun r => (x.toNat :: r.1, r.2) := by
  rw [readUnits.eq_def]
  simp [other, letter]

theorem readUnits_printable (opening : List Char) {c : Char} (quote : c ≠ '"') (backslash : c ≠ '\\')
    (prints : ' ' ≤ c) (more : List Char) :
    readUnits opening (c :: more) = (readUnits opening more).map fun r => (c.toNat :: r.1, r.2) := by
  rw [readUnits.eq_def]
  simp [quote, backslash, Char.not_lt.2 prints]

/-- The four ways of writing a character. -/
theorem writeChar_cases (c : Char) :
    (∃ e, e ≠ 'u' ∧ escaped? e = some c ∧ c.toNat < 0x10000 ∧ writeChar c = ['\\', e]) ∨
      (c ≠ '"' ∧ c ≠ '\\' ∧ ' ' ≤ c ∧ c.toNat < 0x10000 ∧ writeChar c = [c]) ∨
      (c.toNat < 0x10000 ∧ writeChar c = unitEscape c.toNat) ∨
      (0x10000 ≤ c.toNat ∧
        writeChar c = unitEscape (highSurrogate c.toNat) ++ unitEscape (lowSurrogate c.toNat)) := by
  by_cases quote : c = '"'
  · exact .inl ⟨'"', by decide, by subst quote; decide⟩
  by_cases backslash : c = '\\'
  · exact .inl ⟨'\\', by decide, by subst backslash; decide⟩
  by_cases feed : c = '\n'
  · exact .inl ⟨'n', by decide, by subst feed; decide⟩
  by_cases back : c = '\r'
  · exact .inl ⟨'r', by decide, by subst back; decide⟩
  by_cases tab : c = '\t'
  · exact .inl ⟨'t', by decide, by subst tab; decide⟩
  by_cases form : c = '\x0c'
  · exact .inl ⟨'f', by decide, by subst form; decide⟩
  by_cases delete : c = '\x08'
  · exact .inl ⟨'b', by decide, by subst delete; decide⟩
  simp only [writeChar, quote, backslash, feed, back, tab, form, delete, if_false]
  by_cases prints : ' ' ≤ c ∧ c ≤ '~'
  · have small : c.toNat ≤ '~'.toNat := prints.2
    refine .inr (.inl ⟨quote, backslash, prints.1, ?_, if_pos prints⟩)
    exact Nat.lt_of_le_of_lt small (by decide)
  · simp only [prints, if_false]
    by_cases small : c.toNat < 0x10000
    · exact .inr (.inr (.inl ⟨small, if_pos small⟩))
    · exact .inr (.inr (.inr ⟨Nat.not_lt.1 small, if_neg small⟩))

/-- Code points end at U+10FFFF. -/
theorem toNat_lt (c : Char) : c.toNat < 0x110000 := by
  have valid : c.toNat < 0xD800 ∨ (0xDFFF < c.toNat ∧ c.toNat < 0x110000) := c.valid
  omega

/-- The units of a character are read from the way in which it is written.  Something must follow, since
the reader refuses a unit at the end of the whole text. -/
theorem readUnits_writeChar (opening : List Char) (c : Char) {more : List Char} (follows : more ≠ []) :
    readUnits opening (writeChar c ++ more) =
      (readUnits opening more).map fun r => (unitsOf c ++ r.1, r.2) := by
  rcases writeChar_cases c with ⟨e, other, letter, small, written⟩ |
    ⟨quote, backslash, prints, small, written⟩ | ⟨small, written⟩ | ⟨large, written⟩
  · rw [written, unitsOf, if_pos small]
    exact readUnits_escaped opening other letter more
  · rw [written, unitsOf, if_pos small]
    exact readUnits_printable opening quote backslash prints more
  · rw [written, unitsOf, if_pos small, readUnits_unitEscape opening small follows]
    rfl
  · have bound := toNat_lt c
    have high : highSurrogate c.toNat < 0x10000 := by
      unfold highSurrogate
      omega
    have low : lowSurrogate c.toNat < 0x10000 := by
      unfold lowSurrogate
      omega
    have between : unitEscape (lowSurrogate c.toNat) ++ more ≠ [] := List.cons_ne_nil _ _
    rw [written, unitsOf, if_neg (Nat.not_lt.2 large), List.append_assoc,
      readUnits_unitEscape opening high between, readUnits_unitEscape opening low follows]
    cases readUnits opening more <;> rfl

theorem readUnits_written (opening s rest : List Char) :
    readUnits opening (s.flatMap writeChar ++ '"' :: rest) = .ok (s.flatMap unitsOf, rest) := by
  induction s with
  | nil =>
      rw [List.flatMap_nil, List.nil_append, readUnits.eq_def]
      rfl
  | cons c s ih =>
      rw [List.flatMap_cons, List.append_assoc, readUnits_writeChar opening c (by simp), ih,
        List.flatMap_cons]
      rfl

/-! ## Characters -/

/-- No character is a half of a pair. -/
theorem not_surrogate (c : Char) : isHighSurrogate c.toNat = false ∧ isLowSurrogate c.toNat = false := by
  have valid : c.toNat < 0xD800 ∨ (0xDFFF < c.toNat ∧ c.toNat < 0x110000) := c.valid
  simp only [isHighSurrogate, isLowSurrogate, Bool.and_eq_false_iff, decide_eq_false_iff_not]
  omega

theorem charOf_toNat (c : Char) : charOf c.toNat = c := by
  simp [charOf, not_surrogate c, Char.ofNat_toNat]

theorem joinUnits_cons (c : Char) (units : List Nat) :
    joinUnits (c.toNat :: units) = c :: joinUnits units := by
  cases units with
  | nil => exact congrArg (· :: []) (charOf_toNat c)
  | cons n rest => simp [joinUnits, not_surrogate c, charOf_toNat]

theorem joinUnits_pair {c : Char} (large : 0x10000 ≤ c.toNat) (units : List Nat) :
    joinUnits (highSurrogate c.toNat :: lowSurrogate c.toNat :: units) = c :: joinUnits units := by
  have bound := toNat_lt c
  have high : isHighSurrogate (highSurrogate c.toNat) = true := by
    rw [isHighSurrogate, highSurrogate, Bool.and_eq_true, decide_eq_true_iff, decide_eq_true_iff]
    omega
  have low : isLowSurrogate (lowSurrogate c.toNat) = true := by
    rw [isLowSurrogate, lowSurrogate, Bool.and_eq_true, decide_eq_true_iff, decide_eq_true_iff]
    omega
  have whole : 0x10000 + (highSurrogate c.toNat - 0xD800) * 0x400 + (lowSurrogate c.toNat - 0xDC00) =
      c.toNat := by
    unfold highSurrogate lowSurrogate
    omega
  simp only [joinUnits, high, low, Bool.and_self, if_true, whole, Char.ofNat_toNat]

theorem joinUnits_units (s : List Char) : joinUnits (s.flatMap unitsOf) = s := by
  induction s with
  | nil => rfl
  | cons c s ih =>
      rw [List.flatMap_cons, unitsOf]
      split
      · rw [List.singleton_append, joinUnits_cons, ih]
      · rename_i large
        rw [List.cons_append, List.singleton_append, joinUnits_pair (Nat.not_lt.1 large), ih]

/-- **A written text is read back**, whatever its characters and whatever stands behind it. -/
theorem readString_written (opening : List Char) (s : String) (rest : List Char) :
    readString opening (s.toList.flatMap writeChar ++ '"' :: rest) = .ok (s, rest) := by
  rw [readString, readUnits_written]
  simp only [Except.map, joinUnits_units, String.ofList_toList]

end TemplateBuiltins.Json
