/-
# Proofs.Number.Reading -- which number a text denotes

A text denotes the number that its form says (`Number.Denotes`): nothing is zero, a word is an
infinity, a numeral of a base is its integer, and a decimal numeral is an integer or the
double nearest to its value.  A decimal numeral is an integer if it has neither point nor
exponent, is not beyond the largest double, and has not too many digits
(`Numeral.IsInteger`).  What has none of the forms is not a number.

Reading finds the number that is denoted (`ofTrimmed_eq_iff`), and since blanks around a text do
not count, it finds the same in a text and in what stripping leaves of it
(`ofText_eq_iff_denotes`).

The limit is one of digits, not of values: zeros in front count, so a numeral can have a small
value and be rounded (`paddedNumeral_rounded`).
-/
import TemplateBuiltins.Proofs.Catalog.Results
import TemplateBuiltins.Proofs.Number.Decimal
import TemplateBuiltins.Proofs.Number.Numeral

set_option autoImplicit false

namespace TemplateBuiltins

namespace Numeral

/-! ## Integers and doubles -/

/-- The numeral is read as an integer. -/
structure IsInteger (n : Numeral) : Prop where
  pointless : n.fraction = none
  powerless : n.exponent = none
  short : n.whole.length ≤ Text.digitLimit
  fits : Text.digitsValue n.whole ≤ largestDouble

variable {n : Numeral}

theorem number_of_isInteger (integer : n.IsInteger) :
    n.number = .int (Text.withSign n.negative (Text.digitsValue n.whole)) := by
  have given : n.fraction.isNone ∧ n.exponent.isNone ∧ n.whole.length ≤ Text.digitLimit ∧
      Text.digitsValue n.whole ≤ largestDouble := by
    rw [integer.pointless, integer.powerless]
    exact ⟨rfl, rfl, integer.short, integer.fits⟩
  exact if_pos given

theorem number_of_not_isInteger (rounded : ¬ n.IsInteger) : n.number = .double n.decimal.toDouble := by
  apply if_neg
  rintro ⟨pointless, powerless, short, fits⟩
  rw [Option.isNone_iff_eq_none] at pointless powerless
  exact rounded ⟨pointless, powerless, short, fits⟩

end Numeral

namespace Number

/-- What a text without blanks around it denotes. -/
inductive Denotes : List Char → Number → Prop
  | nothing : Denotes [] (.int 0)
  | word {s : List Char} {negative : Bool} (word : Word negative s) : Denotes s (.double (.infinite negative))
  | based {s : List Char} {n : Nat} (based : Based n s) : Denotes s (.int n)
  | integer {s : List Char} {n : Numeral} (spells : n.Spells s) (integer : n.IsInteger) :
      Denotes s (.int (Text.withSign n.negative (Text.digitsValue n.whole)))
  | nearest {s : List Char} {n : Numeral} {x : Double} (spells : n.Spells s) (rounded : ¬ n.IsInteger)
      (nearest : x.NearestTo n.value) (signed : x.Signed n.negative) : Denotes s (.double x)
  | formless {s : List Char} (some : s ≠ []) (wordless : ∀ negative, ¬ Word negative s)
      (unbased : ∀ n, ¬ Based n s) (unspelled : ∀ n : Numeral, ¬ n.Spells s) : Denotes s (.double .nan)

variable {s : List Char} {n : Number}

theorem denotes_number {m : Numeral} (spells : m.Spells s) : Denotes s m.number := by
  by_cases integer : m.IsInteger
  · rw [Numeral.number_of_isInteger integer]
    exact .integer spells integer
  · rw [Numeral.number_of_not_isInteger integer]
    apply Denotes.nearest spells integer
    · rw [← Numeral.value_decimal]
      exact m.decimal.nearestTo_toDouble
    · exact m.decimal.signed_toDouble

/-- Every text denotes what it is read as. -/
theorem denotes_ofTrimmed (s : List Char) : Denotes s (ofTrimmed s) := by
  by_cases empty : s = []
  · rw [empty]
    exact .nothing
  by_cases word : ∃ negative, Word negative s
  · obtain ⟨negative, word⟩ := word
    rw [ofTrimmed_of_word word]
    exact .word word
  by_cases based : ∃ n, Based n s
  · obtain ⟨n, based⟩ := based
    rw [ofTrimmed_of_based based]
    exact .based based
  by_cases spells : ∃ m : Numeral, m.Spells s
  · obtain ⟨m, spells⟩ := spells
    rw [ofTrimmed_of_spells spells]
    exact denotes_number spells
  rw [not_exists] at word based spells
  rw [ofTrimmed_of_formless empty word based spells]
  exact .formless empty word based spells

/-- **A text is read as the number that it denotes, and denotes no other.** -/
theorem ofTrimmed_eq_iff (s : List Char) (n : Number) : ofTrimmed s = n ↔ Denotes s n := by
  constructor
  · rintro rfl
    exact denotes_ofTrimmed s
  · intro denotes
    cases denotes with
    | nothing => rfl
    | word word => exact ofTrimmed_of_word word
    | based based => exact ofTrimmed_of_based based
    | integer spells integer => rw [ofTrimmed_of_spells spells, Numeral.number_of_isInteger integer]
    | @nearest _ m x spells rounded nearest signed =>
        have same := m.decimal.nearestTo_toDouble
        rw [Numeral.value_decimal] at same
        rw [ofTrimmed_of_spells spells, Numeral.number_of_not_isInteger rounded,
          same.unique nearest m.decimal.signed_toDouble signed]
    | formless some wordless unbased unspelled => exact ofTrimmed_of_formless some wordless unbased unspelled

/-! ## Blanks around a text -/

theorem call_number (clock : Moment) (context : Value) (s : String) :
    Builtin.number.call clock context [.string s] = .ok (.number (ofText s.toList)) :=
  Builtin.call_ofString (f := fun s => .number (ofText s)) rfl rfl context s

/-- Stripping a text, at both ends or at one, leaves its number. -/
theorem call_number_stripped (clock : Moment) (context : Value) (s : String) :
    ∀ b ∈ [Builtin.strip, .lstrip, .rstrip], ∃ v, b.call clock context [.string s] = .ok v ∧
      Builtin.number.call clock context [v] = Builtin.number.call clock context [.string s] := by
  have read (t : List Char) (same : Text.trim t = Text.trim s.toList) :
      Builtin.number.call clock context [.ofText t] = Builtin.number.call clock context [.string s] := by
    rw [Value.ofText, call_number, call_number, String.toList_ofList, ofText, ofText, same]
  simp only [List.forall_mem_cons]
  refine ⟨?_, ?_, ?_, by simp⟩
  · exact ⟨_, Builtin.call_ofString (f := fun s => .ofText (Text.trim s)) rfl rfl context s,
      read _ (Text.trim_trim _)⟩
  · exact ⟨_, Builtin.call_ofString (f := fun s => .ofText (Text.trimLeft s)) rfl rfl context s,
      read _ (Text.trim_trimLeft _)⟩
  · exact ⟨_, Builtin.call_ofString (f := fun s => .ofText (Text.trimRight s)) rfl rfl context s,
      read _ (Text.trim_trimRight _)⟩

/-- **The number of a text is the one that the text without its blanks denotes.**  The function of that
name gives it, for a text and for what stripping leaves of it. -/
theorem ofText_eq_iff_denotes :
    (∀ (s t : List Char) (n : Number), Text.Stripped s t → (ofText s = n ↔ Denotes t n)) ∧
    ∀ (clock : Moment) (context : Value) (s : String),
      Builtin.number.call clock context [.string s] = .ok (.number (ofText s.toList)) ∧
        ∀ b ∈ [Builtin.strip, .lstrip, .rstrip], ∃ v, b.call clock context [.string s] = .ok v ∧
          Builtin.number.call clock context [v] = Builtin.number.call clock context [.string s] := by
  constructor
  · intro s t n stripped
    rw [Text.stripped_iff] at stripped
    rw [ofText, stripped, ofTrimmed_eq_iff]
  · intro clock context s
    exact ⟨call_number clock context s, call_number_stripped clock context s⟩

/-- A numeral of base sixteen between blanks, a whole numeral in the digits of another script, and a zero
with a point and a sign. -/
theorem ofText_eq_iff_denotes_forms :
    ofText " 0xfF\n".toList = .int 255 ∧ ofText "+٤٢".toList = .int 42 ∧
      ofText "-.0".toList = .double (.zero true) := by
  obtain ⟨denoted, -⟩ := ofText_eq_iff_denotes
  refine ⟨(denoted _ "0xfF".toList _ ((Text.stripped_iff _ _).2 (by decide))).2 ?_,
    (denoted _ "+٤٢".toList _ ((Text.stripped_iff _ _).2 (by decide))).2 ?_,
    (denoted _ "-.0".toList _ ((Text.stripped_iff _ _).2 (by decide))).2 ?_⟩
  · have digits : List.Forall₂ (DigitOf 16) "fF".toList [15, 15] :=
      .cons ⟨by decide, .inl rfl⟩ (.cons ⟨by decide, .inr rfl⟩ .nil)
    exact .based (.mk (.sixteen (.inl rfl)) (by decide) digits)
  · have spells : Numeral.Spells ⟨false, "٤٢".toList, none, none⟩ "+٤٢".toList :=
      ⟨⟨_, _, .plus, .none, rfl⟩, List.all_eq_true.1 (by decide), nofun, nofun⟩
    exact .integer spells ⟨rfl, rfl, by decide, by decide +kernel⟩
  · have fraction : ∀ ds ∈ some ['0'], ∀ c ∈ ds, Text.isDigit c = true := by
      rintro ds ⟨⟩
      exact List.all_eq_true.1 (by decide)
    have spells : Numeral.Spells ⟨true, [], some ['0'], none⟩ "-.0".toList :=
      ⟨⟨_, _, .minus, .none, rfl⟩, nofun, fraction, fun _ => ⟨['0'], rfl, by decide⟩⟩
    have zero : Numeral.number ⟨true, [], some ['0'], none⟩ = .double (.zero true) := rfl
    rw [← zero]
    exact denotes_number spells

/-! ## Zeros in front -/

/-- Zeros as many as a numeral may have digits, in front of an integer that is no double. -/
def paddedNumeral : Numeral :=
  ⟨false, List.replicate Text.digitLimit '0' ++ "9007199254740993".toList, none, none⟩

theorem paddedNumeral_plain : paddedNumeral.Plain where
  whole := by simp [paddedNumeral]
  digits := fun c inside =>
    Text.isAsciiDigit_of_mem_replicate_append (List.all_eq_true.1 (by decide)) inside
  fraction := nofun

/-- **A numeral with neither point nor exponent need not be read as the integer that it denotes**, though
that lies within the doubles. -/
theorem paddedNumeral_rounded :
    paddedNumeral.Spells paddedNumeral.whole ∧ paddedNumeral.fraction = none ∧ paddedNumeral.exponent = none ∧
      Text.digitsValue paddedNumeral.whole = 9007199254740993 ∧ 9007199254740993 ≤ Numeral.largestDouble ∧
      ∃ x, ofText paddedNumeral.whole = .double x ∧
        x.units? ≠ some ((9007199254740993 * Double.unitsPerOne : Nat) : Int) := by
  have text : paddedNumeral.text 0 = paddedNumeral.whole := by
    simp [Numeral.text, paddedNumeral, Layout.sign, Numeral.fractionText, Numeral.exponentText]
  have spells := paddedNumeral_plain.spells 0
  have read := ofText_text paddedNumeral_plain 0
  rw [text] at spells read
  have long : ¬ paddedNumeral.IsInteger := by
    intro integer
    have short := integer.short
    rw [paddedNumeral, List.length_append, List.length_replicate] at short
    exact absurd short (Nat.not_le.2 (Nat.lt_add_of_pos_right (by decide)))
  refine ⟨spells, rfl, rfl, ?_, by decide +kernel, ?_⟩
  · rw [paddedNumeral, Text.digitsValue_replicate_append]
    decide
  · rw [read, Numeral.number_of_not_isInteger long]
    exact ⟨_, rfl, Double.units?_ne_of_odd (by decide) (by decide) _⟩

end Number

end TemplateBuiltins
