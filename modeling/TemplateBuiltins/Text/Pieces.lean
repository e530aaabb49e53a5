/-
# Text.Pieces -- cutting a text at a delimiter and joining it again

`breakAt d s` finds the first place where the delimiter `d` stands in `s`;
`pieces d s` cuts there and goes on behind it.  `cut` also knows the empty
delimiter, which cuts a text into its characters.  Joining puts the delimiter
back between the pieces, so that it undoes the cutting (`glue_cut`).
-/

set_option autoImplicit false

namespace TemplateBuiltins.Text

/-- What stands before and behind the first occurrence of `d`, if there is one. -/
def breakAt (d : List Char) : List Char → Option (List Char × List Char)
  | [] => if d.isEmpty then some ([], []) else none
  | c :: rest =>
    match d.isPrefixOf? (c :: rest) with
    | some behind => some ([], behind)
    | none => (breakAt d rest).map fun p => (c :: p.1, p.2)

theorem append_of_isPrefixOf? {d s behind : List Char} (h : d.isPrefixOf? s = some behind) :
    d ++ behind = s := by
  induction d generalizing s with
  | nil =>
    change some s = some behind at h
    simpa using h.symm
  | cons a d ih =>
    cases s with
    | nil => exact nomatch h
    | cons c s =>
      change (if a == c then d.isPrefixOf? s else none) = some behind at h
      by_cases hac : a = c
      · subst hac
        simp only [beq_self_eq_true, if_true] at h
        rw [List.cons_append, ih h]
      · simp [hac] at h

/-- Nothing is lost where a text is broken. -/
theorem append_of_breakAt {d s before behind : List Char} (h : breakAt d s = some (before, behind)) :
    before ++ d ++ behind = s := by
  induction s generalizing before with
  | nil =>
    cases d with
    | nil => simp [breakAt] at h; obtain ⟨rfl, rfl⟩ := h; rfl
    | cons a d => simp [breakAt] at h
  | cons c rest ih =>
    unfold breakAt at h
    split at h
    · rename_i b hb
      simp only [Option.some.injEq, Prod.mk.injEq] at h
      obtain ⟨rfl, rfl⟩ := h
      simpa using append_of_isPrefixOf? hb
    · simp only [Option.map_eq_some_iff] at h
      obtain ⟨p, hp, he⟩ := h
      simp only [Prod.mk.injEq] at he
      obtain ⟨rfl, rfl⟩ := he
      simpa using ih hp

/-- The pieces of a text between the occurrences of a delimiter that is not empty. -/
def pieces (d : List Char) (s : List Char) : List (List Char) :=
  if d.isEmpty then [s]
  else
    match _h : breakAt d s with
    | none => [s]
    | some (before, behind) => before :: pieces d behind
termination_by s.length
decreasing_by
  have hs := congrArg List.length (append_of_breakAt _h)
  have hd : d ≠ [] := by rintro rfl; simp_all
  have := List.length_pos_iff.mpr hd
  simp only [List.length_append] at hs
  omega

/-- The texts in order, with the delimiter between any two neighbours. -/
def glue (d : List Char) : List (List Char) → List Char
  | [] => []
  | [s] => s
  | s :: rest => s ++ d ++ glue d rest

theorem glue_cons_cons (d s t : List Char) (rest : List (List Char)) :
    glue d (s :: t :: rest) = s ++ d ++ glue d (t :: rest) := rfl

theorem pieces_ne_nil (d s : List Char) : pieces d s ≠ [] := by
  unfold pieces; split
  · simp
  · split <;> simp

/-- Joining undoes cutting. -/
theorem glue_pieces (d s : List Char) : glue d (pieces d s) = s := by
  fun_induction pieces d s with
  | case1 => rfl
  | case2 => rfl
  | case3 s _ before behind h ih =>
    cases hp : pieces d behind with
    | nil => exact absurd hp (pieces_ne_nil d behind)
    | cons t rest =>
      rw [glue_cons_cons, ← hp, ih]
      exact append_of_breakAt h

/-- A text cut at a delimiter; the empty delimiter cuts between any two characters. -/
def cut (d s : List Char) : List (List Char) :=
  if d.isEmpty then s.map ([·]) else pieces d s

theorem glue_nil_singletons (s : List Char) : glue [] (s.map ([·])) = s := by
  induction s with
  | nil => rfl
  | cons c rest ih =>
    cases rest with
    | nil => rfl
    | cons e rest => simpa [glue] using ih

theorem glue_cut (d s : List Char) : glue d (cut d s) = s := by
  unfold cut
  split
  · simp_all [glue_nil_singletons]
  · exact glue_pieces d s

end TemplateBuiltins.Text
