/-
# Proofs.Number.Spelling -- the three forms of a number

A number has a word for itself (`Number.Word`), or is written in a base (`Number.Based`), or
as a decimal numeral (`Numeral.Spells`).  Each form is told here by what stands in the text
one after the other, and the reader of a form finds what is told, and nothing else
(`infinity?_eq_some_iff`, `based?_eq_some_iff`, `ofText?_eq_some_iff`).

No text has two of the forms: a word begins with a letter behind its sign, and a base is
announced by a letter that is neither a digit nor the mark of an exponent.
-/
import Mathlib.Data.Nat.Digits.Defs
import TemplateBuiltins.Number.Numeral
import TemplateBuiltins.Proofs.Lists.Related
import TemplateBuiltins.Proofs.Text.Digits
import TemplateBuiltins.Proofs.Text.Runs

set_option autoImplicit false

namespace TemplateBuiltins

namespace Numeral

variable {negative : Bool} {sign s : List Char} {n : Numeral}

/-! ## Signs -/

/-- A sign or none, and whether it is a minus. -/
inductive Sign : Bool → List Char → Prop
  | none : Sign false []
  | plus : Sign false ['+']
  | minus : Sign true ['-']

def isSign (c : Char) : Bool := c == '+' || c == '-'

theorem isSign_of_isDigit {c : Char} (digit : Text.isDigit c = true) : isSign c = false := by
  rw [← Bool.not_eq_true, isSign, Bool.or_eq_true, beq_iff_eq, beq_iff_eq]
  rintro (rfl | rfl) <;> revert digit <;> decide

theorem takeSign_append (signed : Sign negative sign) (unsigned : Text.Stops isSign s) :
    takeSign (sign ++ s) = (negative, s) := by
  cases signed with
  | plus => rfl
  | minus => rfl
  | none =>
      rw [List.nil_append]
      unfold takeSign
      split
      · exact absurd (unsigned '-' rfl) (by decide)
      · exact absurd (unsigned '+' rfl) (by decide)
      · rfl

theorem exists_sign {rest : List Char} (taken : takeSign s = (negative, rest)) :
    ∃ sign, Sign negative sign ∧ s = sign ++ rest := by
  unfold takeSign at taken
  split at taken
  · cases taken
    exact ⟨['-'], .minus, rfl⟩
  · cases taken
    exact ⟨['+'], .plus, rfl⟩
  · cases taken
    exact ⟨[], .none, rfl⟩

/-! ## Exponents -/

/-- The text of an exponent: a mark, a sign or none, and digits; or nothing at all. -/
inductive Exponent : Option Int → List Char → Prop
  | none : Exponent none []
  | some {mark : Char} {negative : Bool} {sign ds : List Char} (letter : mark = 'e' ∨ mark = 'E')
      (signed : Sign negative sign) (nonempty : ds ≠ []) (digits : ∀ c ∈ ds, Text.isDigit c = true) :
      Exponent (some (Text.withSign negative (Text.digitsValue ds))) (mark :: (sign ++ ds))

theorem exponent?_eq_some_iff (s : List Char) (e : Option Int) : exponent? s = some e ↔ Exponent e s := by
  constructor
  · intro read
    cases s with
    | nil =>
        cases read
        exact .none
    | cons mark rest =>
        rw [exponent?] at read
        cases taken : takeSign rest with
        | mk negative ds =>
            obtain ⟨sign, signed, rfl⟩ := exists_sign taken
            simp only [taken] at read
            split at read
            · rename_i given
              obtain ⟨letter, nonempty, digits⟩ := given
              cases read
              exact .some letter signed (by simpa using nonempty) (List.all_eq_true.1 digits)
            · cases read
  · intro exponent
    cases exponent with
    | none => rfl
    | @some mark negative sign ds letter signed nonempty digits =>
        have unsigned : Text.Stops isSign ds := by
          rw [← List.append_nil ds]
          exact Text.stops_append_of_ne_nil (fun c inside => isSign_of_isDigit (digits c inside)) nonempty
        rw [exponent?, takeSign_append signed unsigned]
        exact if_pos ⟨letter, by simpa using nonempty, List.all_eq_true.2 digits⟩

/-- No exponent goes on with a digit. -/
theorem Exponent.stops {e : Option Int} (exponent : Exponent e s) : Text.Stops Text.isDigit s := by
  cases exponent with
  | none => exact Text.stops_nil
  | some letter =>
      apply Text.stops_cons
      rcases letter with rfl | rfl <;> decide

/-! ## Decimal numerals -/

def fractionText : Option (List Char) → List Char
  | none => []
  | some ds => '.' :: ds

/-- A text is a numeral's: its sign, its digits with a point among or before them, and its exponent. -/
structure Spells (n : Numeral) (s : List Char) : Prop where
  text : ∃ sign power, Sign n.negative sign ∧ Exponent n.exponent power ∧
    s = sign ++ (n.whole ++ (fractionText n.fraction ++ power))
  whole : ∀ c ∈ n.whole, Text.isDigit c = true
  fraction : ∀ ds ∈ n.fraction, ∀ c ∈ ds, Text.isDigit c = true
  nonempty : n.whole = [] → ∃ ds ∈ n.fraction, ds ≠ []

/-- Behind its sign a numeral begins with a digit or a point. -/
theorem Spells.unsigned (spells : n.Spells s) (power : List Char) :
    Text.Stops isSign (n.whole ++ (fractionText n.fraction ++ power)) := by
  by_cases empty : n.whole = []
  · obtain ⟨ds, given, -⟩ := spells.nonempty empty
    rw [empty, Option.mem_def.1 given]
    exact Text.stops_cons (by decide)
  · exact Text.stops_append_of_ne_nil (fun c inside => isSign_of_isDigit (spells.whole c inside)) empty

/-- Digits without a point go up to the exponent. -/
theorem ofText?_pointless {negative : Bool} {sign whole power : List Char} {e : Option Int}
    (signed : Sign negative sign) (unsigned : Text.Stops isSign (whole ++ power))
    (digits : ∀ c ∈ whole, Text.isDigit c = true) (nonempty : whole ≠ []) (exponent : Exponent e power) :
    ofText? (sign ++ (whole ++ power)) = some ⟨negative, whole, none, e⟩ := by
  have front := Text.takeWhile_append_of_stops digits exponent.stops
  have behind := Text.dropWhile_append_of_stops digits exponent.stops
  have read := (exponent?_eq_some_iff power e).2 exponent
  simp only [ofText?, takeSign_append signed unsigned, front, behind, List.isEmpty_eq_false_iff.2 nonempty]
  cases exponent with
  | none => rfl
  | some letter =>
      have numeral : (exponent? _).map (fun e => Numeral.mk negative whole none e) = _ :=
        congrArg (Option.map _) read
      rcases letter with rfl | rfl
      · exact numeral
      · exact numeral

/-- Digits on either side of a point go up to it and from it up to the exponent. -/
theorem ofText?_pointed {negative : Bool} {sign whole ds power : List Char} {e : Option Int}
    (signed : Sign negative sign) (unsigned : Text.Stops isSign (whole ++ '.' :: (ds ++ power)))
    (digits : ∀ c ∈ whole, Text.isDigit c = true) (fraction : ∀ c ∈ ds, Text.isDigit c = true)
    (nonempty : whole = [] → ds ≠ []) (exponent : Exponent e power) :
    ofText? (sign ++ (whole ++ '.' :: (ds ++ power))) = some ⟨negative, whole, some ds, e⟩ := by
  have stops : Text.Stops Text.isDigit ('.' :: (ds ++ power)) := Text.stops_cons (by decide)
  have front := Text.takeWhile_append_of_stops digits stops
  have behind := Text.dropWhile_append_of_stops digits stops
  have written : (whole.isEmpty && ds.isEmpty) = false := by
    rw [← Bool.not_eq_true, Bool.and_eq_true, List.isEmpty_iff, List.isEmpty_iff]
    rintro ⟨empty, none⟩
    exact nonempty empty none
  have read := (exponent?_eq_some_iff power e).2 exponent
  simp only [ofText?, takeSign_append signed unsigned, front, behind,
    Text.takeWhile_append_of_stops fraction exponent.stops,
    Text.dropWhile_append_of_stops fraction exponent.stops, written, read]
  rfl

theorem ofText?_of_spells (spells : n.Spells s) : ofText? s = some n := by
  obtain ⟨sign, power, signed, exponent, rfl⟩ := spells.text
  have unsigned := spells.unsigned power
  obtain ⟨negative, whole, fraction, e⟩ := n
  cases fraction with
  | none =>
      apply ofText?_pointless signed unsigned spells.whole ?_ exponent
      intro empty
      obtain ⟨ds, given, -⟩ := spells.nonempty empty
      cases given
  | some ds =>
      apply ofText?_pointed signed unsigned spells.whole (spells.fraction ds rfl) ?_ exponent
      intro empty
      obtain ⟨more, given, some⟩ := spells.nonempty empty
      cases given
      exact some

theorem spells_of_ofText? (found : ofText? s = some n) : n.Spells s := by
  unfold ofText? at found
  cases taken : takeSign s with
  | mk negative rest =>
      obtain ⟨sign, signed, rfl⟩ := exists_sign taken
      have split := List.takeWhile_append_dropWhile (p := Text.isDigit) (l := rest)
      have whole : ∀ c ∈ rest.takeWhile Text.isDigit, Text.isDigit c = true :=
        fun c inside => List.mem_takeWhile_imp inside
      simp only [taken] at found
      generalize rest.takeWhile Text.isDigit = front at split whole found
      split at found
      · rename_i behind same
        have cut := List.takeWhile_append_dropWhile (p := Text.isDigit) (l := behind)
        have fraction : ∀ c ∈ behind.takeWhile Text.isDigit, Text.isDigit c = true :=
          fun c inside => List.mem_takeWhile_imp inside
        generalize behind.takeWhile Text.isDigit = ds at cut fraction found
        split at found
        · cases found
        · rename_i nonempty
          obtain ⟨e, read, rfl⟩ := Option.map_eq_some_iff.1 found
          rw [exponent?_eq_some_iff] at read
          refine ⟨⟨sign, _, signed, read, ?_⟩, whole, ?_, ?_⟩
          · rw [fractionText, List.cons_append, cut, ← same, split]
          · rintro more ⟨⟩
            exact fraction
          · rintro rfl
            exact ⟨ds, rfl, by simpa using nonempty⟩
      · split at found
        · cases found
        · rename_i nonempty
          obtain ⟨e, read, rfl⟩ := Option.map_eq_some_iff.1 found
          rw [exponent?_eq_some_iff] at read
          refine ⟨⟨sign, _, signed, read, ?_⟩, whole, nofun, ?_⟩
          · rw [fractionText, List.nil_append, split]
          · rintro rfl
            exact absurd rfl nonempty

/-- **A text is read as the numeral that it spells.** -/
theorem ofText?_eq_some_iff (s : List Char) (n : Numeral) : ofText? s = some n ↔ n.Spells s :=
  ⟨spells_of_ofText?, ofText?_of_spells⟩

end Numeral

namespace Number

/-! ## Words -/

/-- The word for an infinity, behind a sign or none. -/
inductive Word : Bool → List Char → Prop
  | mk {negative : Bool} {sign : List Char} (signed : Numeral.Sign negative sign) :
      Word negative (sign ++ "Infinity".toList)

theorem infinity?_eq_some_iff (s : List Char) (x : Double) :
    infinity? s = some x ↔ ∃ negative, x = .infinite negative ∧ Word negative s := by
  constructor
  · intro read
    rw [infinity?] at read
    cases taken : Numeral.takeSign s with
    | mk negative rest =>
        obtain ⟨sign, signed, rfl⟩ := Numeral.exists_sign taken
        simp only [taken] at read
        split at read
        · rename_i same
          cases read
          exact ⟨negative, rfl, same ▸ .mk signed⟩
        · cases read
  · rintro ⟨negative, rfl, ⟨signed⟩⟩
    have unsigned : Text.Stops Numeral.isSign "Infinity".toList := Text.stops_cons (by decide)
    rw [infinity?, Numeral.takeSign_append signed unsigned]
    rfl

/-! ## Bases -/

/-- The letters that announce a base. -/
inductive Announces : Char → Nat → Prop
  | sixteen {letter : Char} (either : letter = 'x' ∨ letter = 'X') : Announces letter 16
  | eight {letter : Char} (either : letter = 'o' ∨ letter = 'O') : Announces letter 8
  | two {letter : Char} (either : letter = 'b' ∨ letter = 'B') : Announces letter 2

theorem base?_eq_some_iff (letter : Char) (base : Nat) : base? letter = some base ↔ Announces letter base := by
  constructor
  · intro found
    unfold base? at found
    split at found
    · cases found
      exact .sixteen ‹_›
    · split at found
      · cases found
        exact .eight ‹_›
      · split at found
        · cases found
          exact .two ‹_›
        · cases found
  · intro announced
    cases announced with
    | sixteen either => rcases either with rfl | rfl <;> rfl
    | eight either => rcases either with rfl | rfl <;> rfl
    | two either => rcases either with rfl | rfl <;> rfl

/-- The value of a digit is its place among the digits of the base, the letters small or capital. -/
def DigitOf (base : Nat) (c : Char) (d : Nat) : Prop :=
  d < base ∧ ("0123456789abcdef".toList[d]? = some c ∨ "0123456789ABCDEF".toList[d]? = some c)

/-- Only ASCII characters are digits of a base. -/
theorem toNat_lt_of_baseDigit? {base d : Nat} {c : Char} (digit : baseDigit? base c = some d) : c.toNat < 128 := by
  obtain ⟨value, -⟩ := Option.filter_eq_some_iff.1 digit
  split at value
  · rename_i small
    have := Char.le_def.1 small.2
    exact Nat.lt_of_le_of_lt (UInt32.le_iff_toNat_le.1 this) (by decide)
  · split at value
    · rename_i capital
      have := Char.le_def.1 capital.2
      exact Nat.lt_of_le_of_lt (UInt32.le_iff_toNat_le.1 this) (by decide)
    · obtain ⟨k, below, rfl⟩ := Text.exists_digitChar (Option.isSome_of_mem value)
      have ascii : ∀ k < 10, (Text.digitChar k).toNat < 128 := by decide
      exact ascii k below

theorem baseDigit?_sixteen (c : Char) (d : Nat) : baseDigit? 16 c = some d ↔ DigitOf 16 c d := by
  constructor
  · intro digit
    have table : ∀ n < 128, ∀ d ∈ baseDigit? 16 (Char.ofNat n), d < 16 ∧
        ("0123456789abcdef".toList[d]? = some (Char.ofNat n) ∨
          "0123456789ABCDEF".toList[d]? = some (Char.ofNat n)) := by decide
    have entry := table c.toNat (toNat_lt_of_baseDigit? digit)
    rw [Char.ofNat_toNat] at entry
    exact entry d digit
  · rintro ⟨below, stands⟩
    have small : ∀ d < 16, ("0123456789abcdef".toList[d]?).all (baseDigit? 16 · == some d) = true := by decide
    have capital : ∀ d < 16, ("0123456789ABCDEF".toList[d]?).all (baseDigit? 16 · == some d) = true := by decide
    rcases stands with stands | stands
    · have entry := small d below
      rw [stands] at entry
      exact beq_iff_eq.1 entry
    · have entry := capital d below
      rw [stands] at entry
      exact beq_iff_eq.1 entry

theorem baseDigit?_eq_some_iff {base : Nat} (small : base ≤ 16) (c : Char) (d : Nat) :
    baseDigit? base c = some d ↔ DigitOf base c d := by
  have within : baseDigit? base c = some d ↔ d < base ∧ baseDigit? 16 c = some d := by
    simp only [baseDigit?, Option.filter_eq_some_iff, decide_eq_true_eq]
    constructor
    · rintro ⟨value, below⟩
      exact ⟨below, value, Nat.lt_of_lt_of_le below small⟩
    · rintro ⟨below, value, -⟩
      exact ⟨value, below⟩
  rw [within, baseDigit?_sixteen, DigitOf, DigitOf]
  constructor
  · rintro ⟨below, -, stands⟩
    exact ⟨below, stands⟩
  · rintro ⟨below, stands⟩
    exact ⟨below, Nat.lt_of_lt_of_le below small, stands⟩

/-- A numeral of a base, behind a zero and the letter that announces the base. -/
inductive Based : Nat → List Char → Prop
  | mk {letter : Char} {base : Nat} {ds : List Char} {values : List Nat} (announced : Announces letter base)
      (nonempty : ds ≠ []) (digits : List.Forall₂ (DigitOf base) ds values) :
      Based (Nat.ofDigits base values.reverse) ('0' :: letter :: ds)

theorem foldl_eq_ofDigits (base : Nat) (values : List Nat) :
    values.foldl (fun n d => base * n + d) 0 = Nat.ofDigits base values.reverse := by
  induction values using List.reverseRecOn with
  | nil => rfl
  | append_singleton values d ih =>
      rw [List.foldl_append, ih, List.reverse_append, List.reverse_singleton, List.singleton_append,
        Nat.ofDigits_cons, List.foldl_cons, List.foldl_nil, Nat.add_comm]

theorem Announces.le_sixteen {letter : Char} {base : Nat} (announced : Announces letter base) : base ≤ 16 := by
  cases announced <;> decide

/-- The digits behind the letter are read one by one. -/
theorem based?_behind_zero (letter : Char) (ds : List Char) (n : Nat) :
    based? ('0' :: letter :: ds) = some n ↔ ∃ base values, Announces letter base ∧ ds ≠ [] ∧
      List.Forall₂ (DigitOf base) ds values ∧ Nat.ofDigits base values.reverse = n := by
  have read : based? ('0' :: letter :: ds) = some n ↔ ∃ base, base? letter = some base ∧ ds ≠ [] ∧
      ∃ values, ds.mapM (baseDigit? base) = some values ∧ Nat.ofDigits base values.reverse = n := by
    simp only [based?, Option.bind_eq_bind, Option.bind_eq_some_iff, List.isEmpty_iff, foldl_eq_ofDigits,
      Option.some.injEq, Option.ite_none_left_eq_some]
  rw [read]
  constructor
  · rintro ⟨base, announced, nonempty, values, digits, rfl⟩
    rw [base?_eq_some_iff] at announced
    rw [Lists.mapM_eq_some_iff] at digits
    refine ⟨base, values, announced, nonempty, digits.imp ?_, rfl⟩
    intro c d digit
    exact (baseDigit?_eq_some_iff announced.le_sixteen c d).1 digit
  · rintro ⟨base, values, announced, nonempty, digits, rfl⟩
    refine ⟨base, (base?_eq_some_iff letter base).2 announced, nonempty, values, ?_, rfl⟩
    rw [Lists.mapM_eq_some_iff]
    apply digits.imp
    intro c d digit
    exact (baseDigit?_eq_some_iff announced.le_sixteen c d).2 digit

/-- **A text is read in a base exactly if it is a numeral of that base.** -/
theorem based?_eq_some_iff (s : List Char) (n : Nat) : based? s = some n ↔ Based n s := by
  constructor
  · intro read
    unfold based? at read
    split at read
    · rename_i letter ds
      obtain ⟨base, values, announced, nonempty, digits, rfl⟩ := (based?_behind_zero letter ds n).1 read
      exact .mk announced nonempty digits
    · cases read
  · rintro ⟨announced, nonempty, digits⟩
    exact (based?_behind_zero _ _ _).2 ⟨_, _, announced, nonempty, digits, rfl⟩

/-! ## One form at most -/

variable {s : List Char}

theorem infinity?_eq_none (wordless : ∀ negative, ¬ Word negative s) : infinity? s = none := by
  rw [Option.eq_none_iff_forall_ne_some]
  intro x read
  obtain ⟨negative, -, word⟩ := (infinity?_eq_some_iff s x).1 read
  exact wordless negative word

theorem based?_eq_none (unbased : ∀ n, ¬ Based n s) : based? s = none := by
  rw [Option.eq_none_iff_forall_ne_some]
  intro n read
  exact unbased n ((based?_eq_some_iff s n).1 read)

theorem Word.not_based {negative : Bool} (word : Word negative s) (n : Nat) : ¬ Based n s := by
  have none : based? s = none := by
    cases word with
    | mk signed => cases signed <;> rfl
  rw [← based?_eq_some_iff, none]
  nofun

theorem Word.not_spells {negative : Bool} (word : Word negative s) (n : Numeral) : ¬ n.Spells s := by
  have none : Numeral.ofText? s = none := by
    cases word with
    | mk signed => cases signed <;> decide
  rw [← Numeral.ofText?_eq_some_iff, none]
  nofun

theorem Based.not_spells {k : Nat} (based : Based k s) (n : Numeral) : ¬ n.Spells s := by
  have none : Numeral.ofText? s = none := by
    cases based with
    | mk announced =>
        cases announced with
        | sixteen either => rcases either with rfl | rfl <;> rfl
        | eight either => rcases either with rfl | rfl <;> rfl
        | two either => rcases either with rfl | rfl <;> rfl
  rw [← Numeral.ofText?_eq_some_iff, none]
  nofun

/-! ## The number of a trimmed text -/

theorem ofTrimmed_of_word {negative : Bool} (word : Word negative s) :
    ofTrimmed s = .double (.infinite negative) := by
  have found := (infinity?_eq_some_iff s (.infinite negative)).2 ⟨negative, rfl, word⟩
  have some : s ≠ [] := by
    rintro rfl
    cases found
  rw [ofTrimmed, if_neg (by simpa using some), found]

theorem ofTrimmed_of_based {n : Nat} (based : Based n s) : ofTrimmed s = .int n := by
  have found := (based?_eq_some_iff s n).2 based
  have some : s ≠ [] := by
    rintro rfl
    cases found
  have wordless := infinity?_eq_none fun _ word => word.not_based n based
  rw [ofTrimmed, if_neg (by simpa using some), wordless, found]

theorem ofTrimmed_of_spells {n : Numeral} (spells : n.Spells s) : ofTrimmed s = n.number := by
  have found := (Numeral.ofText?_eq_some_iff s n).2 spells
  have some : s ≠ [] := by
    rintro rfl
    cases found
  have wordless := infinity?_eq_none fun _ word => word.not_spells n spells
  have unbased := based?_eq_none fun _ based => based.not_spells n spells
  rw [ofTrimmed, if_neg (by simpa using some), wordless, unbased, found]

/-- A text of none of the forms is not a number. -/
theorem ofTrimmed_of_formless (some : s ≠ []) (wordless : ∀ negative, ¬ Word negative s)
    (unbased : ∀ n, ¬ Based n s) (unspelled : ∀ n : Numeral, ¬ n.Spells s) : ofTrimmed s = .double .nan := by
  have unread : Numeral.ofText? s = none := by
    rw [Option.eq_none_iff_forall_ne_some]
    intro n read
    exact unspelled n ((Numeral.ofText?_eq_some_iff s n).1 read)
  rw [ofTrimmed, if_neg (by simpa using some), infinity?_eq_none wordless, based?_eq_none unbased, unread]

end Number

end TemplateBuiltins
