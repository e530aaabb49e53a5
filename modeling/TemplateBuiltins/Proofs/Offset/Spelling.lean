/-
# Proofs.Offset.Spelling -- how offsets are spelled

The grammar of offsets, stated without a reader.  A spelling is a sign, if any,
and components, with blanks in front of each token and behind it; a component is
digits and letters.  Nothing need stand between a run of letters and the next
digits, and the runs of a spelling are as long as they can be, because a digit is
no unit letter and behind a run stands a blank, a character of the other class, or
nothing (`stops_components`).

A spelling denotes an offset if its letters name units, the larger before the
smaller, and the offset has the counts that its digits denote, under the sign, and
no others.  Letters name a unit if their small form is one of its names
(`Names`).  The reader folds letters by a rule of its own; on unit letters the two
agree (`unit?_eq_some_iff`): only the dotted capital İ has a small form of two
characters, and neither it nor they occur in a name.
-/
import TemplateBuiltins.Offset.Reader
import TemplateBuiltins.Proofs.Text.Runs
import TemplateBuiltins.Text.Letter

set_option autoImplicit false

namespace TemplateBuiltins.Offset

/-- Letters name a unit by their small form. -/
def Names (letters : List Char) (u : TimeUnit) : Prop :=
  unitNames.lookup (String.ofList (Text.lower letters)) = some u

/-- A component as it is written, with the blanks behind its digits and behind its letters. -/
structure Written where
  digits : List Char
  between : List Char
  letters : List Char
  behind : List Char

namespace Written

def text (w : Written) : List Char := w.digits ++ w.between ++ w.letters ++ w.behind

structure Valid (w : Written) : Prop where
  digits : ∀ c ∈ w.digits, Text.isAsciiDigit c = true
  some_digit : w.digits ≠ []
  between : ∀ c ∈ w.between, isSeparator c = true
  letters : ∀ c ∈ w.letters, isUnitLetter c = true
  some_letter : w.letters ≠ []
  behind : ∀ c ∈ w.behind, isSeparator c = true

end Written

/-- A written offset: blanks, a sign if any, blanks, and components. -/
structure Spelling where
  before : List Char
  sign : Option Char
  behind : List Char
  components : List Written

namespace Spelling

def text (p : Spelling) : List Char :=
  p.before ++ p.sign.toList ++ p.behind ++ p.components.flatMap Written.text

structure Valid (p : Spelling) : Prop where
  before : ∀ c ∈ p.before, isSeparator c = true
  sign : ∀ c ∈ p.sign, c = '+' ∨ c = '-'
  behind : ∀ c ∈ p.behind, isSeparator c = true
  components : ∀ w ∈ p.components, w.Valid

def negative (p : Spelling) : Bool := p.sign == some '-'

/-- The offset of a spelling. -/
structure Denotes (p : Spelling) (o : Offset) : Prop where
  named : ∀ w ∈ p.components, ∃ u, Names w.letters u
  descending : p.components.Pairwise fun w x =>
    ∀ u v, Names w.letters u → Names x.letters v → u.rank < v.rank
  counts : ∀ w ∈ p.components, ∀ u, Names w.letters u →
    o.count u = Text.withSign p.negative (Text.digitsValue w.digits)
  others : ∀ u, (∀ w ∈ p.components, ¬ Names w.letters u) → o.count u = 0

/-- No count is longer than the longest that is read. -/
def WithinLimit (p : Spelling) : Prop := ∀ w ∈ p.components, w.digits.length ≤ Text.digitLimit

end Spelling

/-- A text spells an offset. -/
def Spells (text : List Char) (o : Offset) : Prop :=
  ∃ p : Spelling, p.Valid ∧ p.text = text ∧ p.Denotes o

/-! ## Unit letters -/

/-- The unit letters other than the dotted capital, whose small form alone is longer than itself. -/
def plainUnitLetters : List Char :=
  "abcdefghijklmnopqrstuvwxyzABCDEFGHIJKLMNOPQRSTUVWXYZ".toList ++ ['\u0131', '\u017f', kelvinSign]

def dottedCapital : Char := '\u0130'

theorem mem_plainUnitLetters {c : Char} (letter : isUnitLetter c = true) (ne : c ≠ dottedCapital) :
    c ∈ plainUnitLetters := by
  have small : ∀ n ∈ List.range' 97 26, Char.ofNat n ∈ plainUnitLetters := by decide
  have capital : ∀ n ∈ List.range' 65 26, Char.ofNat n ∈ plainUnitLetters := by decide
  simp only [isUnitLetter, Bool.or_eq_true, Bool.and_eq_true, decide_eq_true_eq, beq_iff_eq,
    Char.le_def, UInt32.le_iff_toNat_le] at letter
  rcases letter with ((((⟨ge, le⟩ | ⟨ge, le⟩) | dotted) | dotless) | long) | kelvin
  · have inside : c.toNat ∈ List.range' 97 26 := List.mem_range'_1.2 ⟨ge, Nat.lt_succ_of_le le⟩
    simpa using small c.toNat inside
  · have inside : c.toNat ∈ List.range' 65 26 := List.mem_range'_1.2 ⟨ge, Nat.lt_succ_of_le le⟩
    simpa using capital c.toNat inside
  · exact absurd dotted ne
  · subst dotless; decide
  · subst long; decide
  · subst kelvin; decide

theorem mapLetter_plain {c : Char} (plain : c ∈ plainUnitLetters) :
    Text.mapLetter Text.toLowerShifts Text.toLowerExpansions c = [foldLetter c] := by
  have all : plainUnitLetters.all (fun c =>
      Text.mapLetter Text.toLowerShifts Text.toLowerExpansions c = [foldLetter c]) = true := by
    decide +kernel
  simpa using List.all_eq_true.1 all c plain

/-- Without a capital sigma every letter is mapped for itself. -/
theorem lowerAfter_eq_flatMap (before s : List Char) (noSigma : 'Σ' ∉ s) :
    Text.lowerAfter before s =
      s.flatMap (Text.mapLetter Text.toLowerShifts Text.toLowerExpansions) := by
  induction s generalizing before with
  | nil => rfl
  | cons c s ih =>
      rw [List.mem_cons, not_or] at noSigma
      rw [Text.lowerAfter, Text.lowerLetter, if_neg (Ne.symm noSigma.1), ih (c :: before) noSigma.2]
      rfl

theorem lower_eq_flatMap {letters : List Char} (all : ∀ c ∈ letters, isUnitLetter c = true) :
    Text.lower letters =
      letters.flatMap (Text.mapLetter Text.toLowerShifts Text.toLowerExpansions) := by
  refine lowerAfter_eq_flatMap [] letters fun sigma => ?_
  have := all _ sigma
  revert this
  decide

theorem lower_eq_map_foldLetter {letters : List Char}
    (all : ∀ c ∈ letters, isUnitLetter c = true) (plain : dottedCapital ∉ letters) :
    Text.lower letters = letters.map foldLetter := by
  rw [lower_eq_flatMap all]
  induction letters with
  | nil => rfl
  | cons c letters ih =>
      rw [List.mem_cons, not_or] at plain
      have member := mem_plainUnitLetters (all c (by simp)) (Ne.symm plain.1)
      rw [List.flatMap_cons, mapLetter_plain member,
        ih (fun d inside => all d (by simp [inside])) plain.2]
      rfl

/-- No name of a unit has a letter that is not a small ASCII letter. -/
theorem lookup_eq_none_of_mem {letters : List Char} {c : Char} (inside : c ∈ letters)
    (foreign : c ∉ "abcdefghijklmnopqrstuvwxyz".toList) :
    unitNames.lookup (String.ofList letters) = none := by
  have names : unitNames.all (fun e =>
      e.1.toList.all "abcdefghijklmnopqrstuvwxyz".toList.contains) = true := by decide
  rw [List.lookup_eq_none_iff]
  intro e member
  by_contra same
  simp only [bne_iff_ne, ne_eq, not_not] at same
  have spelled : e.1.toList = letters := by rw [← same, String.toList_ofList]
  have known := List.all_eq_true.1 (List.all_eq_true.1 names e member) c (spelled ▸ inside)
  exact foreign (List.contains_iff_mem.1 known)

/-- The unit that the reader finds is the one that the letters name. -/
theorem unit?_eq_some_iff {letters : List Char} (all : ∀ c ∈ letters, isUnitLetter c = true)
    (u : TimeUnit) : unit? letters = some u ↔ Names letters u := by
  unfold unit? Names
  by_cases dotted : dottedCapital ∈ letters
  · have folded : dottedCapital ∈ letters.map foldLetter :=
      List.mem_map.2 ⟨dottedCapital, dotted, by decide⟩
    have lowered : Char.ofNat 0x307 ∈ Text.lower letters := by
      rw [lower_eq_flatMap all]
      exact List.mem_flatMap.2 ⟨dottedCapital, dotted, by decide +kernel⟩
    rw [lookup_eq_none_of_mem folded (by decide), lookup_eq_none_of_mem lowered (by decide)]
  · rw [lower_eq_map_foldLetter all dotted]

theorem Names.unique {letters : List Char} {u v : TimeUnit} (first : Names letters u)
    (second : Names letters v) : u = v :=
  Option.some.inj (first.symm.trans second)

end TemplateBuiltins.Offset
