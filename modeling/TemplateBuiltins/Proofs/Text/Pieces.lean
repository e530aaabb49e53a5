/-
# Proofs.Text.Pieces -- when cutting gives back what was joined

A delimiter stands in a text at a first place (`FirstAt`), and that is where the text is
broken (`breakAt_eq_some_iff`); a text is cut at one character as `List.splitOn` cuts it
(`pieces_singleton`).  Cutting always gives pieces that join to the text again
(`glue_cut`), but texts that are joined need not be the pieces of the joined text: the
delimiter can stand in one of them, or begin in one and end in the delimiter behind it.
They are the pieces exactly if none of that happens (`pieces_glue_iff`), and with the
empty delimiter if each of them is one character (`cut_nil_glue_iff`).
-/
import Mathlib.Data.List.Basic
import Mathlib.Data.List.Infix
import TemplateBuiltins.Text.Pieces

set_option autoImplicit false

namespace TemplateBuiltins.Text

variable {d s : List Char}

/-! ## The first place of a delimiter -/

/-- The delimiter stands at a place of the text and at none before it. -/
def FirstAt (d s : List Char) (place : Nat) : Prop :=
  d <+: s.drop place ∧ ∀ earlier < place, ¬ d <+: s.drop earlier

instance (d s : List Char) (place : Nat) : Decidable (FirstAt d s place) := by
  unfold FirstAt; infer_instance

theorem firstAt_zero : FirstAt d s 0 ↔ d <+: s := by
  simp [FirstAt]

theorem firstAt_succ {c : Char} {place : Nat} :
    FirstAt d (c :: s) (place + 1) ↔ ¬ d <+: c :: s ∧ FirstAt d s place := by
  constructor
  · rintro ⟨stands, first⟩
    exact ⟨first 0 (by omega), stands, fun earlier before => first (earlier + 1) (by omega)⟩
  · rintro ⟨notHere, stands, first⟩
    refine ⟨stands, fun earlier before => ?_⟩
    cases earlier with
    | zero => exact notHere
    | succ earlier => exact first earlier (by omega)

/-- Whether a delimiter first stands behind a text is settled by the two alone. -/
theorem firstAt_append_iff (x more : List Char) :
    FirstAt d (x ++ d ++ more) x.length ↔ FirstAt d (x ++ d) x.length := by
  induction x with
  | nil => simp [firstAt_zero]
  | cons c x ih =>
      have here : d <+: c :: (x ++ d ++ more) ↔ d <+: c :: (x ++ d) := by
        constructor
        · intro stands
          have start : c :: (x ++ d) <+: c :: (x ++ d ++ more) := ⟨more, by simp⟩
          apply List.prefix_of_prefix_length_le stands start
          simp only [List.length_cons, List.length_append]
          omega
        · intro stands
          have longer : d <+: c :: (x ++ d) ++ more := List.prefix_append_of_prefix stands
          exact longer
      rw [List.cons_append, List.cons_append, List.length_cons, firstAt_succ, firstAt_succ, here, ih]

/-- A text is broken where the delimiter first stands. -/
theorem breakAt_eq_some_iff (nonempty : d ≠ []) (before behind : List Char) :
    breakAt d s = some (before, behind) ↔ s = before ++ d ++ behind ∧ FirstAt d s before.length := by
  induction s generalizing before with
  | nil =>
      have none : breakAt d [] = none := by simp [breakAt, nonempty]
      simp [none, nonempty]
  | cons c rest ih =>
      simp only [breakAt]
      cases here : d.isPrefixOf? (c :: rest) with
      | some left =>
          rw [List.isPrefixOf?_eq_some_iff_append_eq] at here
          simp only [Option.some.injEq, Prod.mk.injEq]
          constructor
          · rintro ⟨rfl, rfl⟩
            exact ⟨here.symm, firstAt_zero.2 ⟨left, here⟩⟩
          · rintro ⟨whole, stands, first⟩
            cases before with
            | nil =>
                rw [List.nil_append, ← here, List.append_cancel_left_eq] at whole
                exact ⟨rfl, whole⟩
            | cons b before => exact absurd ⟨left, here⟩ (first 0 (by simp))
      | none =>
          have notHere : ¬ d <+: c :: rest := by
            rintro ⟨left, stands⟩
            rw [← List.isPrefixOf?_eq_some_iff_append_eq, here] at stands
            cases stands
          simp only [Option.map_eq_some_iff, Prod.mk.injEq, Prod.exists]
          constructor
          · rintro ⟨b, left, broken, rfl, rfl⟩
            obtain ⟨whole, first⟩ := (ih b).1 broken
            exact ⟨by simp [whole], firstAt_succ.2 ⟨notHere, first⟩⟩
          · rintro ⟨whole, first⟩
            cases before with
            | nil => exact absurd (firstAt_zero.1 first) notHere
            | cons b before =>
                simp only [List.cons_append, List.cons.injEq] at whole
                obtain ⟨rfl, whole⟩ := whole
                exact ⟨before, behind, (ih before).2 ⟨whole, (firstAt_succ.1 first).2⟩, rfl, rfl⟩

/-- A text that cannot be broken does not contain the delimiter. -/
theorem breakAt_eq_none_iff (nonempty : d ≠ []) : breakAt d s = none ↔ ¬ d <:+: s := by
  induction s with
  | nil => simp [breakAt, nonempty]
  | cons c rest ih =>
      rw [List.infix_cons_iff, not_or, ← ih, breakAt]
      cases here : d.isPrefixOf? (c :: rest) with
      | some left =>
          have stands : d <+: c :: rest := ⟨left, List.isPrefixOf?_eq_some_iff_append_eq.1 here⟩
          simp [stands]
      | none =>
          have notHere : ¬ d <+: c :: rest := by
            rintro ⟨left, stands⟩
            rw [← List.isPrefixOf?_eq_some_iff_append_eq, here] at stands
            cases stands
          simp [notHere]

/-! ## Cutting at a character -/

theorem not_mem_of_firstAt {c : Char} {before behind : List Char}
    (first : FirstAt [c] (before ++ [c] ++ behind) before.length) : c ∉ before := by
  intro inside
  obtain ⟨front, back, rfl⟩ := List.append_of_mem inside
  apply first.2 front.length (by simp)
  simp

/-- Cutting at one character is splitting there. -/
theorem pieces_singleton (c : Char) (s : List Char) : pieces [c] s = s.splitOn c := by
  fun_induction pieces [c] s with
  | case1 s empty => simp at empty
  | case2 s _ whole =>
      rw [breakAt_eq_none_iff (by simp), List.singleton_infix_iff] at whole
      exact (List.splitOn_eq_singleton whole).symm
  | case3 s _ before behind broken ih =>
      obtain ⟨rfl, first⟩ := (breakAt_eq_some_iff (by simp) before behind).1 broken
      rw [ih, List.append_assoc, List.singleton_append,
        List.splitOn_append_cons_self_of_not_mem (not_mem_of_firstAt first)]

/-! ## The pieces of joined texts -/

theorem pieces_of_breakAt_none (whole : breakAt d s = none) : pieces d s = [s] := by
  rw [pieces]
  split
  · rfl
  · split
    · rfl
    · rename_i broken
      rw [whole] at broken
      cases broken

theorem pieces_of_breakAt {before behind : List Char} (nonempty : d ≠ [])
    (broken : breakAt d s = some (before, behind)) : pieces d s = before :: pieces d behind := by
  have given : d.isEmpty = false := by simpa using nonempty
  rw [pieces, given]
  simp only [Bool.false_eq_true, if_false]
  split
  · rename_i whole
    rw [broken] at whole
    cases whole
  · rename_i same
    rw [broken] at same
    cases same
    rfl

theorem pieces_eq_singleton_iff (nonempty : d ≠ []) : pieces d s = [s] ↔ ¬ d <:+: s := by
  rw [← breakAt_eq_none_iff nonempty]
  constructor
  · intro alone
    cases broken : breakAt d s with
    | none => rfl
    | some p =>
        obtain ⟨before, behind⟩ := p
        rw [pieces_of_breakAt nonempty broken] at alone
        exact absurd (List.cons.inj alone).2 (pieces_ne_nil d behind)
  · exact pieces_of_breakAt_none

theorem pieces_eq_cons_cons_iff (nonempty : d ≠ []) (x y : List Char) (rest : List (List Char)) :
    pieces d s = x :: y :: rest ↔
      ∃ behind, s = x ++ d ++ behind ∧ FirstAt d s x.length ∧ pieces d behind = y :: rest := by
  constructor
  · intro cut
    cases broken : breakAt d s with
    | none =>
        rw [pieces_of_breakAt_none broken] at cut
        cases cut
    | some p =>
        obtain ⟨before, behind⟩ := p
        rw [pieces_of_breakAt nonempty broken] at cut
        obtain ⟨rfl, more⟩ := List.cons.inj cut
        obtain ⟨whole, first⟩ := (breakAt_eq_some_iff nonempty before behind).1 broken
        exact ⟨behind, whole, first, more⟩
  · rintro ⟨behind, whole, first, more⟩
    rw [pieces_of_breakAt nonempty ((breakAt_eq_some_iff nonempty x behind).2 ⟨whole, first⟩), more]

/-- Every text but the last ends where the delimiter behind it is first found, and the last has no
delimiter in it. -/
def Separated (d : List Char) (items : List (List Char)) (some : items ≠ []) : Prop :=
  (∀ x ∈ items.dropLast, FirstAt d (x ++ d) x.length) ∧ ¬ d <:+: items.getLast some

theorem separated_cons_cons (x y : List Char) (rest : List (List Char)) :
    Separated d (x :: y :: rest) (by simp) ↔
      FirstAt d (x ++ d) x.length ∧ Separated d (y :: rest) (by simp) := by
  simp only [Separated, List.dropLast_cons_cons, List.forall_mem_cons, and_assoc]
  rw [List.getLast_cons (by simp)]

/-- **Joined texts are the pieces of the joined text exactly if they are separated in it.** -/
theorem pieces_glue_iff (nonempty : d ≠ []) (items : List (List Char)) (some : items ≠ []) :
    pieces d (glue d items) = items ↔ Separated d items some := by
  induction items with
  | nil => exact absurd rfl some
  | cons x rest ih =>
      cases rest with
      | nil => simp [glue, pieces_eq_singleton_iff nonempty, Separated]
      | cons y rest =>
          rw [glue_cons_cons, pieces_eq_cons_cons_iff nonempty, firstAt_append_iff, separated_cons_cons,
            ← ih (by simp)]
          constructor
          · rintro ⟨behind, whole, first, more⟩
            rw [List.append_cancel_left_eq] at whole
            exact ⟨first, whole ▸ more⟩
          · rintro ⟨first, more⟩
            exact ⟨glue d (y :: rest), rfl, first, more⟩

/-! ## Joining -/

theorem glue_eq_intercalate (d : List Char) (items : List (List Char)) : glue d items = d.intercalate items := by
  induction items with
  | nil => rfl
  | cons x rest ih =>
      cases rest with
      | nil => simp [glue]
      | cons y rest => simp [glue_cons_cons, ih]

theorem glue_append (d : List Char) {xs ys : List (List Char)} (some : xs ≠ []) (more : ys ≠ []) :
    glue d (xs ++ ys) = glue d xs ++ d ++ glue d ys := by
  induction xs with
  | nil => exact absurd rfl some
  | cons x rest ih =>
      cases rest with
      | nil =>
          cases ys with
          | nil => exact absurd rfl more
          | cons y ys => rfl
      | cons x' rest =>
          have behind := ih (by simp)
          simp only [List.cons_append] at behind ⊢
          rw [glue_cons_cons, glue_cons_cons, behind]
          simp only [List.append_assoc]

/-! ## The empty delimiter -/

theorem glue_nil (items : List (List Char)) : glue [] items = items.flatten := by
  induction items with
  | nil => rfl
  | cons x rest ih =>
      cases rest with
      | nil => simp [glue]
      | cons y rest => rw [glue_cons_cons, ih, List.append_nil, ← List.flatten_cons]

/-- Joined with nothing between them, texts are the characters of the joined text exactly if each of
them is one character. -/
theorem cut_nil_glue_iff (items : List (List Char)) :
    cut [] (glue [] items) = items ↔ ∀ x ∈ items, x.length = 1 := by
  rw [glue_nil, cut, List.isEmpty_nil, if_pos rfl]
  constructor
  · intro same x inside
    rw [← same, List.mem_map] at inside
    obtain ⟨c, -, rfl⟩ := inside
    rfl
  · intro single
    induction items with
    | nil => rfl
    | cons x rest ih =>
        obtain ⟨c, rfl⟩ := List.length_eq_one_iff.1 (single x (by simp))
        have others := ih fun y inside => single y (by simp [inside])
        simp [others]

theorem cut_glue_iff (nonempty : d ≠ []) (items : List (List Char)) (some : items ≠ []) :
    cut d (glue d items) = items ↔ Separated d items some := by
  rw [← pieces_glue_iff nonempty items some, cut, if_neg (by simpa using nonempty)]

end TemplateBuiltins.Text
