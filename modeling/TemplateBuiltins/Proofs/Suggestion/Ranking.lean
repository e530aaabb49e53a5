/-
# Proofs.Suggestion.Ranking -- the suggestions are the most similar names

The similarity of two texts is a rational number (`Builtin.Scores`), and comparing crosswise in
whole numbers compares it (`Score.passes_of`, `Score.atLeast_of`).  Names are sorted by it with a
stable sort, which leaves those of one similarity in their order (`Lists.filter_mergeSort_key`).
The suggestions are the first of the names sorted in this way (`Builtin.suggestions_eq`).

A name of the catalog is found; any other is answered with the suggestions, and the message of
that answer lists them in their order (`Builtin.suggestions_most_similar`).
-/
import Mathlib.Algebra.Order.Field.Basic
import Mathlib.Algebra.Order.Field.Rat
import Mathlib.Data.List.Permutation
import TemplateBuiltins.Proofs.Suggestion.Similarity
import TemplateBuiltins.Proofs.Text.Pieces
import TemplateBuiltins.Suggestion

set_option autoImplicit false

namespace TemplateBuiltins

open List

/-! ## Sorting by a key -/

namespace Lists

variable {α κ : Type} [LinearOrder κ] (key : α → κ) (l : List α)

/-- Great keys first. -/
def descending (key : α → κ) (a b : α) : Bool := key b ≤ key a

theorem descending_trans (a b c : α) (first : descending key a b = true) (second : descending key b c = true) :
    descending key a c = true := by
  rw [descending, decide_eq_true_eq] at *
  exact le_trans second first

theorem descending_total (a b : α) : (descending key a b || descending key b a) = true := by
  simpa [descending] using le_total (key b) (key a)

/-- Sorting leaves what has one key in its order. -/
theorem filter_mergeSort_key (k : κ) :
    (l.mergeSort (descending key)).filter (key · = k) = l.filter (key · = k) := by
  have sorted : (l.filter (key · = k)).Pairwise fun a b => descending key a b = true := by
    rw [pairwise_filter]
    apply pairwise_of_forall
    intro a b first second
    rw [decide_eq_true_eq] at first second
    simp [descending, first, second]
  have within := (sublist_mergeSort (descending_trans key) (descending_total key) sorted filter_sublist).filter
    fun a => decide (key a = k)
  rw [filter_filter] at within
  simp only [Bool.and_self] at within
  exact (within.eq_of_length ((mergeSort_perm l _).filter _).length_eq.symm).symm

/-- Of two entries the one with the greater key stands first, or with the same key the one that stood
first already. -/
theorem pairwise_mergeSort_key :
    (l.mergeSort (descending key)).Pairwise fun a b => key b < key a ∨ key a = key b ∧ [a, b] <+ l := by
  have sorted := pairwise_mergeSort (descending_trans key) (descending_total key) l
  rw [pairwise_iff_forall_sublist] at sorted ⊢
  intro a b here
  rcases lt_or_eq_of_le (decide_eq_true_eq.mp (sorted here)) with less | same
  · exact .inl less
  · have among := here.filter fun c => decide (key c = key a)
    rw [filter_mergeSort_key] at among
    simp only [same, decide_true, filter_cons_of_pos, filter_nil] at among
    exact .inr ⟨same.symm, among.trans filter_sublist⟩

end Lists

/-! ## Similarity as a fraction -/

namespace Builtin

/-- How similar each name of the catalog is to a text: two hundred times the length of a longest common
subsequence, by the sum of the lengths. -/
def Scores (name : String) (score : Builtin → ℚ) : Prop :=
  ∀ b, ∃ common, Similarity.Longest name.toList b.name.toList common ∧
    score b = 200 * common / (name.length + b.name.length)

theorem name_length_pos (b : Builtin) : 0 < b.name.length := by cases b <;> decide

variable {name : String} {score : Builtin → ℚ}

theorem total_pos (name : String) (b : Builtin) : 0 < (Score.of name.toList b).total := by
  have := b.name_length_pos
  simp only [Score.of, String.length_toList]
  omega

theorem Scores.eq (scores : Scores name score) (b : Builtin) :
    score b = (Score.of name.toList b).common / (Score.of name.toList b).total := by
  obtain ⟨common, longest, same⟩ := scores b
  rw [same, longest.unique (Similarity.longest_commonLength _ _)]
  simp [Score.of, String.length_toList]

theorem exists_scores (name : String) : ∃ score, Scores name score :=
  ⟨_, fun _ => ⟨_, Similarity.longest_commonLength _ _, rfl⟩⟩

theorem Scores.passes_of (scores : Scores name score) (b : Builtin) :
    (Score.of name.toList b).passes = decide (60 ≤ score b) := by
  have positive : (0 : ℚ) < (Score.of name.toList b).total := Nat.cast_pos.2 (total_pos name b)
  rw [scores.eq, Score.passes, Score.cutoff, decide_eq_decide, le_div_iff₀ positive]
  exact_mod_cast Iff.rfl

theorem Scores.atLeast_of (scores : Scores name score) (a b : Builtin) :
    (Score.of name.toList a).atLeast (Score.of name.toList b) = Lists.descending score a b := by
  have first : (0 : ℚ) < (Score.of name.toList a).total := Nat.cast_pos.2 (total_pos name a)
  have second : (0 : ℚ) < (Score.of name.toList b).total := Nat.cast_pos.2 (total_pos name b)
  rw [Lists.descending, scores.eq, scores.eq, Score.atLeast, decide_eq_decide, div_le_div_iff₀ second first]
  exact_mod_cast Iff.rfl

/-- The suggestions are the first names of those that pass, sorted by their similarity. -/
theorem suggestions_eq (scores : Scores name score) :
    suggestions name = ((all.filter (60 ≤ score ·)).mergeSort (Lists.descending score)).take 3 := by
  have chosen : ((all.map (Score.of name.toList)).filter Score.passes).map Score.builtin =
      all.filter (60 ≤ score ·) := by
    rw [filter_map, map_map]
    have passes : Score.passes ∘ Score.of name.toList = fun b => decide (60 ≤ score b) := funext scores.passes_of
    have same : Score.builtin ∘ Score.of name.toList = id := rfl
    rw [passes, same, map_id]
  rw [suggestions, suggestionLimit, map_take, ← chosen]
  congr 1
  apply map_mergeSort
  intro s first t second
  obtain ⟨a, -, rfl⟩ := mem_map.1 (mem_filter.1 first).1
  obtain ⟨b, -, rfl⟩ := mem_map.1 (mem_filter.1 second).1
  exact scores.atLeast_of a b

/-! ## Names that are not found -/

theorem ofName?_eq_some_iff (name : String) (b : Builtin) : ofName? name = some b ↔ b.name = name := by
  constructor
  · intro found
    simpa using find?_some found
  · rintro rfl
    exact ofName?_name b

theorem find_eq_ok_iff (name : String) (b : Builtin) : find name = .ok b ↔ b.name = name := by
  rw [← ofName?_eq_some_iff, find]
  cases ofName? name <;> simp

theorem eq_of_find_eq_error {name : String} {f : Failure} (missing : find name = .error f) :
    f = .unknownBuiltin name ((suggestions name).map Builtin.name) := by
  rw [find] at missing
  cases found : ofName? name with
  | none =>
      rw [found] at missing
      exact (Except.error.inj missing).symm
  | some b =>
      rw [found] at missing
      cases missing

end Builtin

namespace Failure

variable (name : String) (names : List String)

theorem valueOf_unknownBuiltin :
    (unknownBuiltin name names).report.valueOf "suggestions" = .array (names.map .string) := by
  cases names <;> rfl

theorem suggestions_unknownBuiltin :
    (unknownBuiltin name names).report.suggestions = names.map String.toList := by
  rw [Report.suggestions, valueOf_unknownBuiltin, Value.items?, Option.getD_some, map_map]
  rfl

theorem fault?_unknownBuiltin : (unknownBuiltin name names).report.fault? = none := by
  have texts (index : Nat) : Value.firstNoText? index (names.map .string) = none := by
    induction names generalizing index with
    | nil => rfl
    | cons first rest ih => exact ih (index + 1)
  have family : (unknownBuiltin name names).report.family = .unknownBuiltin := rfl
  rw [Report.fault?, if_pos family, valueOf_unknownBuiltin]
  simp only [Value.items?, texts, Option.map_none]

/-- The message names the text that is unknown, and lists the suggestions if there are any. -/
theorem message_unknownBuiltin :
    (unknownBuiltin name names).report.message =
      "unknown builtin '".toList ++ name.toList ++ ['\''] ++
        if names = [] then []
        else " (did you mean: ".toList ++ ", ".toList.intercalate (names.map String.toList) ++ "?)".toList := by
  have family : (unknownBuiltin name names).report.family = .unknownBuiltin := rfl
  have opening : (unknownBuiltin name names).report.text.toList =
      "unknown builtin '".toList ++ name.toList ++ ['\''] := by
    show ("unknown builtin '" ++ name ++ "'").toList = _
    rw [String.toList_append, String.toList_append]
    rfl
  rw [Report.message, if_pos family, suggestions_unknownBuiltin, opening]
  cases names with
  | nil => simp
  | cons first rest => simp [listed, Text.glue_eq_intercalate]

end Failure

namespace Builtin

/-- **The suggestions for a text are the most similar names of the catalog.**  Names are ranked by their
similarity, 60 at least, and of those as similar the one defined first comes first; three at most
are suggested.  Looking up a text finds the function of that name, or fails with the suggestions,
which the message lists in their order. -/
theorem suggestions_most_similar (name : String) :
    (∀ score, Scores name score → ∃ ranked : List Builtin,
      ranked.Perm (all.filter (60 ≤ score ·)) ∧
      ranked.Pairwise (fun a b => score b < score a ∨ score a = score b ∧ [a, b] <+ all) ∧
      suggestions name = ranked.take 3) ∧
    (∀ b, find name = .ok b ↔ b.name = name) ∧
    ∀ f, find name = .error f →
      f.report.family = .unknownBuiltin ∧
      f.report.valueOf "suggestions" = .array ((suggestions name).map fun b => .string b.name) ∧
      f.report.fault? = none ∧
      f.report.message = "unknown builtin '".toList ++ name.toList ++ ['\''] ++
        if suggestions name = [] then []
        else " (did you mean: ".toList ++
          ", ".toList.intercalate ((suggestions name).map fun b => b.name.toList) ++ "?)".toList := by
  refine ⟨fun score scores => ⟨_, mergeSort_perm _ _, ?_, suggestions_eq scores⟩, find_eq_ok_iff name,
    fun f missing => ?_⟩
  · exact (Lists.pairwise_mergeSort_key score _).imp fun ranked =>
      ranked.imp_right fun ⟨same, before⟩ => ⟨same, before.trans filter_sublist⟩
  · obtain rfl := eq_of_find_eq_error missing
    refine ⟨rfl, ?_, Failure.fault?_unknownBuiltin _ _, ?_⟩
    · rw [Failure.valueOf_unknownBuiltin, map_map]
      rfl
    · simp only [Failure.message_unknownBuiltin, map_map, map_eq_nil_iff]
      rfl

/-- The best of three suggestions, and two that are as similar in the order of their definition. -/
theorem suggestions_trip :
    (∃ score, Scores "trip" score ∧ ∃ ranked : List Builtin,
      ranked.Perm (all.filter (60 ≤ score ·)) ∧
      ranked.Pairwise (fun a b => score b < score a ∨ score a = score b ∧ [a, b] <+ all) ∧
      ranked.take 3 = [.strip, .rstrip, .lstrip]) ∧
    ∃ f, find "trip" = .error f ∧
      f.report.message = "unknown builtin 'trip' (did you mean: strip, rstrip, lstrip?)".toList := by
  obtain ⟨best, -, answer⟩ := suggestions_most_similar "trip"
  have chosen : suggestions "trip" = [.strip, .rstrip, .lstrip] := by cbv
  constructor
  · obtain ⟨score, scores⟩ := exists_scores "trip"
    obtain ⟨ranked, same, sorted, first⟩ := best score scores
    exact ⟨score, scores, ranked, same, sorted, first ▸ chosen⟩
  · have missing : find "trip" = .error (.unknownBuiltin "trip" ["strip", "rstrip", "lstrip"]) := by
      show Except.error (Failure.unknownBuiltin "trip" ((suggestions "trip").map Builtin.name)) = _
      rw [chosen]
      rfl
    refine ⟨_, missing, ?_⟩
    rw [(answer _ missing).2.2.2, chosen]
    decide

end Builtin

end TemplateBuiltins
