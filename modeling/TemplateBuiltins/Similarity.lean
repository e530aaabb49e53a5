/-
# Similarity -- how much two names have in common

A common subsequence of two texts stands in both in the same order, though not
without gaps.  The similarity of two texts is twice the length of a longest one by
the sum of their lengths.  The length is found row by row: the row of a prefix of
the first text tells it for every prefix of the second.
-/

set_option autoImplicit false

namespace TemplateBuiltins.Similarity

/-- The next row: the row above is given from its second entry on, with the entry before it. -/
def nextEntries (c : Char) (diagonal left : Nat) : List Char → List Nat → List Nat
  | d :: text, above :: row =>
    let entry := if c = d then diagonal + 1 else max left above
    entry :: nextEntries c above entry text row
  | _, _ => []

/-- The row under a row, for one more character of the first text. -/
def nextRow (text : List Char) (row : List Nat) (c : Char) : List Nat := nextEntries c 0 0 text row

/-- The lengths of longest common subsequences with the prefixes of `text` that are not empty. -/
def lastRow (s text : List Char) : List Nat :=
  s.foldl (nextRow text) (List.replicate text.length 0)

/-- The length of a longest common subsequence. -/
def commonLength (s text : List Char) : Nat := (lastRow s text).getLast?.getD 0

end TemplateBuiltins.Similarity
