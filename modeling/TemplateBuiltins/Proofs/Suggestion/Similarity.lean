/-
# Proofs.Suggestion.Similarity -- the last row ends in the length of a longest common subsequence

A number is the length of a longest common subsequence of two texts if one of that length
stands in both and none is longer (`Longest`).  What is longest for two texts follows from what
is longest when the last character of one or of both is left out: texts that end in one
character have it in common (`Longest.same`), and of two different last characters one is of no
use (`Longest.differ`).

A row is right if each entry is the longest length for the text of its column (`RowOf`).
Writing the next row keeps that (`rowOf_nextRow`), so after the last character of a text the
last entry tells the length for both texts (`longest_commonLength`).
-/
import Mathlib.Data.List.Basic
import Mathlib.Data.List.Induction
import TemplateBuiltins.Similarity

set_option autoImplicit false

namespace TemplateBuiltins.Similarity

open List

/-- A number is the length of a longest text that stands in both texts in order, gaps allowed. -/
structure Longest (s t : List Char) (n : Nat) : Prop where
  reached : ∃ common, common <+ s ∧ common <+ t ∧ common.length = n
  bound : ∀ common, common <+ s → common <+ t → common.length ≤ n

variable {s t done text : List Char} {c d : Char} {n m : Nat}

theorem Longest.unique (first : Longest s t n) (second : Longest s t m) : n = m := by
  obtain ⟨x, inS, inT, rfl⟩ := first.reached
  obtain ⟨y, alsoS, alsoT, rfl⟩ := second.reached
  exact Nat.le_antisymm (second.bound x inS inT) (first.bound y alsoS alsoT)

/-! ## One more character -/

theorem sublist_append_singleton_iff {common : List Char} :
    common <+ s ++ [c] ↔ common <+ s ∨ ∃ front, common = front ++ [c] ∧ front <+ s := by
  rw [sublist_append_iff]
  constructor
  · rintro ⟨front, last, rfl, inside, alone⟩
    rcases sublist_singleton.1 alone with rfl | rfl
    · exact .inl (by simpa using inside)
    · exact .inr ⟨front, rfl, inside⟩
  · rintro (inside | ⟨front, rfl, inside⟩)
    · exact ⟨common, [], by simp, inside, nil_sublist _⟩
    · exact ⟨front, [c], rfl, inside, .refl _⟩

theorem longest_nil_left (t : List Char) : Longest [] t 0 where
  reached := ⟨[], .refl _, nil_sublist _, rfl⟩
  bound := fun common inside _ => by simp [sublist_nil.1 inside]

theorem longest_nil_right (s : List Char) : Longest s [] 0 where
  reached := ⟨[], nil_sublist _, .refl _, rfl⟩
  bound := fun common _ inside => by simp [sublist_nil.1 inside]

/-- What ends in the same character has that in common too. -/
theorem Longest.same (longest : Longest s t n) (c : Char) : Longest (s ++ [c]) (t ++ [c]) (n + 1) where
  reached := by
    obtain ⟨common, inS, inT, rfl⟩ := longest.reached
    exact ⟨common ++ [c], inS.append_right [c], inT.append_right [c], by simp⟩
  bound := by
    -- without its last character a common text stands in both texts without theirs
    have shorter {u common : List Char} (inside : common <+ u ++ [c]) : common.dropLast <+ u := by
      rcases sublist_append_singleton_iff.1 inside with inside | ⟨front, rfl, inside⟩
      · exact (dropLast_sublist common).trans inside
      · simpa using inside
    intro common inS inT
    have bound := longest.bound common.dropLast (shorter inS) (shorter inT)
    rw [length_dropLast] at bound
    omega

/-- Where the last characters differ, one of them is of no use. -/
theorem Longest.differ (differ : c ≠ d) (left : Longest (s ++ [c]) t n) (above : Longest s (t ++ [d]) m) :
    Longest (s ++ [c]) (t ++ [d]) (max n m) where
  reached := by
    rcases Nat.le_total m n with most | most
    · obtain ⟨common, inS, inT, rfl⟩ := left.reached
      exact ⟨common, inS, inT.trans (sublist_append_left t [d]), (Nat.max_eq_left most).symm⟩
    · obtain ⟨common, inS, inT, rfl⟩ := above.reached
      exact ⟨common, inS.trans (sublist_append_left s [c]), inT, (Nat.max_eq_right most).symm⟩
  bound := by
    intro common inS inT
    rcases sublist_append_singleton_iff.1 inS with within | ⟨front, rfl, -⟩
    · exact Nat.le_trans (above.bound common within inT) (Nat.le_max_right n m)
    · rcases sublist_append_singleton_iff.1 inT with within | ⟨other, same, -⟩
      · exact Nat.le_trans (left.bound _ inS within) (Nat.le_max_left n m)
      · exact absurd (append_inj' same rfl).2 (by simpa using differ)

/-! ## Rows -/

/-- The entries of a row are the longest lengths, the column of the first being `done` and one character
of the text more. -/
def RowOf (s done : List Char) : List Char → List Nat → Prop
  | [], [] => True
  | d :: text, entry :: row => Longest s (done ++ [d]) entry ∧ RowOf s (done ++ [d]) text row
  | _, _ => False

theorem rowOf_zeros (done text : List Char) : RowOf [] done text (replicate text.length 0) := by
  induction text generalizing done with
  | nil => trivial
  | cons d text ih => exact ⟨longest_nil_left _, ih (done ++ [d])⟩

/-- Each entry follows from those above, on the diagonal and on the left. -/
theorem rowOf_nextEntries {diagonal left : Nat} {row : List Nat} (corner : Longest s done diagonal)
    (before : Longest (s ++ [c]) done left) (above : RowOf s done text row) :
    RowOf (s ++ [c]) done text (nextEntries c diagonal left text row) := by
  induction text generalizing done diagonal left row with
  | nil =>
      cases row with
      | nil => trivial
      | cons => exact above.elim
  | cons d text ih =>
      cases row with
      | nil => exact above.elim
      | cons entry row =>
          obtain ⟨here, behind⟩ := above
          have next : Longest (s ++ [c]) (done ++ [d]) (if c = d then diagonal + 1 else max left entry) := by
            by_cases same : c = d
            · rw [if_pos same, ← same]
              exact corner.same c
            · rw [if_neg same]
              exact .differ same before here
          exact ⟨next, ih here next behind⟩

theorem rowOf_nextRow {row : List Nat} (above : RowOf s [] text row) (c : Char) :
    RowOf (s ++ [c]) [] text (nextRow text row c) :=
  rowOf_nextEntries (longest_nil_right s) (longest_nil_right _) above

/-- The rows go through the characters of the first text. -/
theorem rowOf_lastRow (s text : List Char) : RowOf s [] text (lastRow s text) := by
  induction s using reverseRecOn with
  | nil => exact rowOf_zeros [] text
  | append_singleton s c ih =>
      rw [lastRow, foldl_append]
      exact rowOf_nextRow ih c

theorem RowOf.longest_getLast {row : List Nat} (right : RowOf s done text row) (before : Longest s done n) :
    Longest s (done ++ text) (row.getLast?.getD n) := by
  induction text generalizing done row n with
  | nil =>
      cases row with
      | nil => simpa using before
      | cons => exact right.elim
  | cons d text ih =>
      cases row with
      | nil => exact right.elim
      | cons entry row =>
          have last := ih right.2 right.1
          rw [append_assoc, singleton_append] at last
          rw [getLast?_cons, Option.getD_some]
          exact last

/-- **The last entry of the last row is the length of a longest common subsequence.** -/
theorem longest_commonLength (s text : List Char) : Longest s text (commonLength s text) :=
  (rowOf_lastRow s text).longest_getLast (longest_nil_right s)

end TemplateBuiltins.Similarity
