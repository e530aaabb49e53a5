/-
# Proofs.Text.Runs -- runs of characters of one class

A run is what `takeWhile` takes.  A text that is a run in front of something that
does not go on with it (`Stops`) is cut exactly there.  Trimming cuts a run of blanks
off both ends (`exists_trim`), and what is left has a blank at neither end; only one text
has both properties (`stripped_iff`), so a text without blanks comes out of any blanks
around it (`trim_append`), and trimming before, at one end or at both, makes no difference
(`trim_trimLeft`, `trim_trimRight`, `trim_trim`).
-/
import Mathlib.Data.List.TakeWhile
import TemplateBuiltins.Text.Blank

set_option autoImplicit false

namespace TemplateBuiltins.Text

variable {p q : Char → Bool} {run rest : List Char}

/-- A text does not begin with a character of the class. -/
def Stops (p : Char → Bool) (rest : List Char) : Prop := ∀ c ∈ rest.head?, p c = false

theorem stops_nil : Stops p [] := by simp [Stops]

theorem stops_cons {c : Char} (other : p c = false) : Stops p (c :: rest) := by
  simp [Stops, other]

/-- Behind a run of another class whose characters are not of this one, or behind nothing. -/
theorem stops_append (disjoint : ∀ c ∈ run, p c = false) (stops : Stops p rest) :
    Stops p (run ++ rest) := by
  cases run with
  | nil => exact stops
  | cons c run => exact stops_cons (disjoint c (by simp))

theorem stops_append_of_ne_nil (disjoint : ∀ c ∈ run, p c = false) (nonempty : run ≠ []) :
    Stops p (run ++ rest) := by
  cases run with
  | nil => exact absurd rfl nonempty
  | cons c run => exact stops_cons (disjoint c (by simp))

theorem takeWhile_of_stops (stops : Stops p rest) : rest.takeWhile p = [] := by
  cases rest with
  | nil => rfl
  | cons c rest => simp [stops c rfl]

theorem dropWhile_of_stops (stops : Stops p rest) : rest.dropWhile p = rest := by
  cases rest with
  | nil => rfl
  | cons c rest => simp [stops c rfl]

theorem takeWhile_append_of_stops (all : ∀ c ∈ run, p c = true) (stops : Stops p rest) :
    (run ++ rest).takeWhile p = run := by
  rw [List.takeWhile_append_of_pos all, takeWhile_of_stops stops, List.append_nil]

theorem dropWhile_append_of_stops (all : ∀ c ∈ run, p c = true) (stops : Stops p rest) :
    (run ++ rest).dropWhile p = rest := by
  rw [List.dropWhile_append_of_pos all, dropWhile_of_stops stops]

theorem stops_dropWhile (p : Char → Bool) (s : List Char) : Stops p (s.dropWhile p) := by
  intro c first
  have := List.head?_dropWhile_not p s
  rw [Option.mem_def.1 first] at this
  exact this

/-! ## Trimming -/

theorem exists_trimLeft (s : List Char) : ∃ left, (∀ c ∈ left, isBlank c = true) ∧ s = left ++ trimLeft s :=
  ⟨s.takeWhile isBlank, fun _ inside => List.mem_takeWhile_imp inside, List.takeWhile_append_dropWhile.symm⟩

theorem exists_trimRight (s : List Char) :
    ∃ right, (∀ c ∈ right, isBlank c = true) ∧ s = trimRight s ++ right := by
  obtain ⟨left, blank, whole⟩ := exists_trimLeft s.reverse
  refine ⟨left.reverse, fun c inside => blank c (List.mem_reverse.1 inside), ?_⟩
  rw [trimRight, ← List.reverse_append]
  exact List.reverse_eq_iff.1 whole

theorem exists_trim (s : List Char) :
    ∃ left right, (∀ c ∈ left ++ right, isBlank c = true) ∧ s = left ++ trim s ++ right := by
  obtain ⟨left, before, whole⟩ := exists_trimLeft s
  obtain ⟨right, after, inner⟩ := exists_trimRight (trimLeft s)
  refine ⟨left, right, fun c inside => (List.mem_append.1 inside).elim (before c) (after c), ?_⟩
  rw [trim, List.append_assoc, ← inner]
  exact whole

/-- Behind blanks a text begins where it has no blank. -/
theorem trimLeft_append {left t : List Char} (before : ∀ c ∈ left, isBlank c = true)
    (first : Stops isBlank t) (some : t ≠ []) (right : List Char) : trimLeft (left ++ t ++ right) = t ++ right := by
  rw [List.append_assoc]
  apply dropWhile_append_of_stops before
  cases t with
  | nil => exact absurd rfl some
  | cons c t => exact stops_cons (first c rfl)

theorem trim_of_blank {s : List Char} (blank : ∀ c ∈ s, isBlank c = true) : trim s = [] := by
  have none : trimLeft s = [] := List.dropWhile_eq_nil_iff.2 blank
  rw [trim, none]
  rfl

/-- A text without a blank at its ends is what trimming leaves of it with blanks around. -/
theorem trim_append_of_stops {left t right : List Char} (around : ∀ c ∈ left ++ right, isBlank c = true)
    (first : Stops isBlank t) (last : Stops isBlank t.reverse) : trim (left ++ t ++ right) = t := by
  by_cases empty : t = []
  · subst empty
    apply trim_of_blank
    simpa using around
  · have before : ∀ c ∈ left, isBlank c = true := fun c inside => around c (List.mem_append_left _ inside)
    have after : ∀ c ∈ right.reverse, isBlank c = true := fun c inside =>
      around c (List.mem_append_right _ (List.mem_reverse.1 inside))
    have behind := trimLeft_append after last (by simpa using empty) []
    simp only [trimLeft, List.append_nil] at behind
    rw [trim, trimLeft_append before first empty, trimRight, List.reverse_append, behind, List.reverse_reverse]

/-- A text without blanks is what trimming leaves of it with blanks around. -/
theorem trim_append {left name right : List Char} (around : ∀ c ∈ left ++ right, isBlank c = true)
    (solid : ∀ c ∈ name, isBlank c = false) : trim (left ++ name ++ right) = name := by
  apply trim_append_of_stops around
  · intro c first
    exact solid c (List.mem_of_mem_head? first)
  · intro c first
    exact solid c (List.mem_reverse.1 (List.mem_of_mem_head? first))

/-- The second text is the first without the blanks around it. -/
structure Stripped (s t : List Char) : Prop where
  around : ∃ left right, s = left ++ t ++ right ∧ ∀ c ∈ left ++ right, isBlank c = true
  first : ∀ c ∈ t.head?, isBlank c = false
  last : ∀ c ∈ t.getLast?, isBlank c = false

theorem stops_trimRight {s : List Char} (first : Stops isBlank s) : Stops isBlank (trimRight s) := by
  obtain ⟨right, -, whole⟩ := exists_trimRight s
  intro c front
  apply first
  rw [whole]
  simp [Option.mem_def.1 front]

theorem stops_reverse_trimRight (s : List Char) : Stops isBlank (trimRight s).reverse := by
  rw [trimRight, List.reverse_reverse]
  exact stops_dropWhile isBlank s.reverse

/-- **Trimming strips a text, and there is nothing else that a text can be stripped to.** -/
theorem stripped_iff (s t : List Char) : Stripped s t ↔ trim s = t := by
  constructor
  · rintro ⟨⟨left, right, rfl, around⟩, first, last⟩
    apply trim_append_of_stops around first
    intro c front
    rw [List.head?_reverse] at front
    exact last c front
  · rintro rfl
    obtain ⟨left, right, around, whole⟩ := exists_trim s
    refine ⟨⟨left, right, whole, around⟩, stops_trimRight (stops_dropWhile isBlank s), ?_⟩
    intro c back
    rw [← List.head?_reverse] at back
    exact stops_reverse_trimRight (trimLeft s) c back

/-- Blanks around a text do not count. -/
theorem trim_around {left right : List Char} (blank : ∀ c ∈ left ++ right, isBlank c = true) (s : List Char) :
    trim (left ++ s ++ right) = trim s := by
  rw [← stripped_iff]
  obtain ⟨⟨before, behind, whole, around⟩, first, last⟩ := (stripped_iff s (trim s)).2 rfl
  refine ⟨⟨left ++ before, behind ++ right, ?_, ?_⟩, first, last⟩
  · have moved : left ++ before ++ trim s ++ (behind ++ right) = left ++ (before ++ trim s ++ behind) ++ right := by
      simp only [List.append_assoc]
    rw [moved, ← whole]
  · simp only [List.mem_append] at blank around ⊢
    rintro c ((outer | inner) | inner | outer)
    · exact blank c (.inl outer)
    · exact around c (.inl inner)
    · exact around c (.inr inner)
    · exact blank c (.inr outer)

theorem trim_trimLeft (s : List Char) : trim (trimLeft s) = trim s := by
  obtain ⟨left, blank, whole⟩ := exists_trimLeft s
  have around : ∀ c ∈ left ++ [], isBlank c = true := by simpa using blank
  have same := trim_around around (trimLeft s)
  rwa [List.append_nil, ← whole, eq_comm] at same

theorem trim_trimRight (s : List Char) : trim (trimRight s) = trim s := by
  obtain ⟨right, blank, whole⟩ := exists_trimRight s
  have around : ∀ c ∈ [] ++ right, isBlank c = true := by simpa using blank
  have same := trim_around around (trimRight s)
  rwa [List.nil_append, ← whole, eq_comm] at same

theorem trim_trim (s : List Char) : trim (trim s) = trim s := by
  obtain ⟨left, right, blank, whole⟩ := exists_trim s
  have same := trim_around blank (trim s)
  rwa [← whole, eq_comm] at same

end TemplateBuiltins.Text
