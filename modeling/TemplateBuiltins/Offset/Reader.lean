/-
# Offset.Reader -- offsets as text

An offset is written as a sign, if any, and components from the largest unit to
the smallest, each unit at most once; a component is a count and the name of a
unit, in small or capital letters.  Blanks may stand around a sign, a count and a
name, but none has to: the run of digits and the run of letters are as long as
they can be.  The sign applies to every count, and a unit that is not named
counts zero; the empty text is the zero offset.

Unit letters are the ASCII letters and the four further letters that a comparison
without regard to case takes for one of them.  Of these only the Kelvin sign
occurs in a name, as a `k`.
-/
import TemplateBuiltins.Offset.Basic
import TemplateBuiltins.Text.Digit

set_option autoImplicit false

namespace TemplateBuiltins.Offset

def unitNames : List (String × TimeUnit) := [
  ("y", .years), ("yr", .years), ("year", .years), ("years", .years),
  ("mo", .months), ("month", .months), ("months", .months),
  ("w", .weeks), ("wk", .weeks), ("week", .weeks), ("weeks", .weeks),
  ("d", .days), ("day", .days), ("days", .days),
  ("h", .hours), ("hr", .hours), ("hour", .hours), ("hours", .hours),
  ("m", .minutes), ("min", .minutes), ("minute", .minutes), ("minutes", .minutes),
  ("s", .seconds), ("sec", .seconds), ("second", .seconds), ("seconds", .seconds)]

def kelvinSign : Char := '\u212a'

/-- Whether a character may stand in a run of unit letters. -/
def isUnitLetter (c : Char) : Bool :=
  ('a' ≤ c && c ≤ 'z') || ('A' ≤ c && c ≤ 'Z') ||
    c == '\u0130' || c == '\u0131' || c == '\u017f' || c == kelvinSign

/-- A unit letter as it stands in a unit's name. -/
def foldLetter (c : Char) : Char :=
  if c = kelvinSign then 'k' else if 'A' ≤ c ∧ c ≤ 'Z' then Char.ofNat (c.toNat + 32) else c

/-- The unit that a run of letters names. -/
def unit? (letters : List Char) : Option TimeUnit :=
  unitNames.lookup (String.ofList (letters.map foldLetter))

def isSeparator (c : Char) : Bool := c == ' ' || c == '\t' || c == '\x0c' || c == '\r' || c == '\n'

def skip (s : List Char) : List Char := s.dropWhile isSeparator

structure Component where
  count : Nat
  unit : TimeUnit
  deriving DecidableEq

/-- The component that a text begins with, and what stands behind it. -/
def component? (s : List Char) : Option (Component × List Char) :=
  let ds := s.takeWhile Text.isAsciiDigit
  let rest := skip (s.dropWhile Text.isAsciiDigit)
  if ds.isEmpty ∨ Text.digitLimit < ds.length then none
  else (unit? (rest.takeWhile isUnitLetter)).map fun u =>
    (⟨Text.digitsValue ds, u⟩, rest.dropWhile isUnitLetter)

theorem length_dropWhile_le (p : Char → Bool) (s : List Char) : (s.dropWhile p).length ≤ s.length := by
  have := congrArg List.length (List.takeWhile_append_dropWhile (p := p) (l := s))
  simp only [List.length_append] at this
  omega

/-- A component takes at least one character. -/
theorem length_of_component? {s rest : List Char} {c : Component} (h : component? s = some (c, rest)) :
    rest.length < s.length := by
  unfold component? at h
  simp only at h
  split at h
  · cases h
  · rename_i hd
    simp only [Option.map_eq_some_iff, Prod.mk.injEq] at h
    obtain ⟨u, -, -, rfl⟩ := h
    have h₁ := length_dropWhile_le isUnitLetter (skip (s.dropWhile Text.isAsciiDigit))
    have h₂ := length_dropWhile_le isSeparator (s.dropWhile Text.isAsciiDigit)
    have h₃ := congrArg List.length
      (List.takeWhile_append_dropWhile (p := Text.isAsciiDigit) (l := s))
    have h₄ : 0 < (s.takeWhile Text.isAsciiDigit).length := by
      rw [List.length_pos_iff]
      intro e
      simp [e] at hd
    simp only [List.length_append] at h₃
    unfold skip at h₁ ⊢
    omega

/-- The components that a text consists of. -/
def components? (s : List Char) : Option (List Component) :=
  if (skip s).isEmpty then some []
  else
    match _h : component? (skip s) with
    | none => none
    | some (c, rest) => (components? rest).map (c :: ·)
termination_by s.length
decreasing_by
  have h₁ := length_of_component? _h
  have h₂ := length_dropWhile_le isSeparator s
  unfold skip at h₁
  omega

/-- Whether every unit is smaller than the one before it. -/
def descending : List Component → Bool
  | c :: d :: rest => c.unit.rank < d.unit.rank && descending (d :: rest)
  | _ => true

/-- Whether a text begins with a minus, and the text behind its sign. -/
def takeSign (s : List Char) : Bool × List Char :=
  match skip s with
  | '-' :: rest => (true, rest)
  | '+' :: rest => (false, rest)
  | rest => (false, rest)

/-- The offset of some components under a sign. -/
def ofComponents (negative : Bool) (cs : List Component) : Offset :=
  cs.foldl (fun o c => o.withCount c.unit (Text.withSign negative c.count)) zero

/-- The offset that a text denotes. -/
def read? (s : List Char) : Option Offset :=
  let (negative, rest) := takeSign s
  match components? rest with
  | some cs => if descending cs then some (ofComponents negative cs) else none
  | none => none

end TemplateBuiltins.Offset

