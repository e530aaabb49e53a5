/-
# Proofs.Catalog.SplitJoin -- splitting and joining undo each other

A text or a number that is split at a delimiter is, joined with that delimiter again, the
same text, or the text of the number.  The other way round, a list of texts that is
joined and then split comes back exactly if the delimiter is found nowhere but where it
was put (`Text.Separated`), and with the empty delimiter if each text is one character.
Both follow from the laws of cutting and joining (`Text.glue_cut`, `Text.cut_glue_iff`),
since a delimiter has the same text for both functions (`Catalog.subject?_eq_text`).

A number that cannot be shown is neither split nor joined with, although it has a text
(`split_longInteger`).
-/
import TemplateBuiltins.Proofs.Catalog.Results
import TemplateBuiltins.Proofs.Text.Pieces

set_option autoImplicit false

namespace TemplateBuiltins

/-! ## Texts as items -/

theorem itemTexts_strings (items : List String) :
    itemTexts (items.map .string) = .ok (items.map String.toList) := by
  induction items with
  | nil => rfl
  | cons s rest ih =>
      rw [List.map_cons, itemTexts, ih]
      rfl

theorem map_ofText (parts : List (List Char)) :
    parts.map Value.ofText = (parts.map String.ofList).map .string := by
  rw [List.map_map]
  rfl

theorem map_ofText_eq_iff (parts : List (List Char)) (items : List String) :
    parts.map Value.ofText = items.map .string ↔ parts = items.map String.toList := by
  have strings : Function.Injective Value.string := fun _ _ same => Value.string.inj same
  rw [map_ofText, (List.map_injective_iff.2 strings).eq_iff]
  constructor
  · rintro rfl
    simp [Function.comp_def]
  · rintro rfl
    simp [Function.comp_def]

namespace Value

theorem isTextual_ofText (s : List Char) : (ofText s).IsTextual := .text _

theorem text_ofText (s : List Char) : (ofText s).text = s := String.toList_ofList

end Value

theorem shown_strings (items : List String) : Shown (items.map .string) := by
  intro v inside
  obtain ⟨s, -, rfl⟩ := List.mem_map.1 inside
  exact Value.isShowable_string s

/-! ## The two calls -/

namespace Builtin

open Signature (matchesValue_stringOrNumber_iff)

variable {clock : Moment} {delimiter : Value} (textual : delimiter.IsTextual)
  (showable : delimiter.isShowable = true)

include textual showable

/-- A text or a number is split into its pieces at a delimiter. -/
theorem call_split (context : Value) {subject : Value} (subjectTextual : subject.IsTextual)
    (subjectShowable : subject.isShowable = true) :
    split.call clock context [subject, delimiter] =
      .ok (.array ((Text.cut delimiter.text subject.text).map .ofText)) := by
  have matching : ∀ v ∈ [subject, delimiter], stringOrNumber.matchesValue v = true := by
    intro v inside
    rw [matchesValue_stringOrNumber_iff]
    simp only [List.mem_cons, List.not_mem_nil, or_false] at inside
    rcases inside with rfl | rfl
    · exact subjectTextual
    · exact textual
  have accepts : (split.definition clock).Accepts [subject, delimiter] := accepts_several rfl (by simp) matching
  have shown : Shown [subject, delimiter] := by simp [Shown, subjectShowable, showable]
  rw [call, accepts.call_eq shown]
  exact Catalog.split_two [] subjectTextual textual

/-- Texts are joined by putting a delimiter between them. -/
theorem call_join_strings (context : Value) (items : List String) :
    join.call clock context [.array (items.map .string), delimiter] =
      .ok (.ofText (Text.glue delimiter.text (items.map String.toList))) := by
  have array : (Value.array (items.map .string)).isShowable = true := by
    rw [Value.isShowable_array, allShowable_iff]
    exact shown_strings items
  have shown : Shown [.array (items.map .string), delimiter] := by simp [Shown, array, showable]
  rw [call_join (.array _) textual shown, Catalog.joinTexts, itemTexts_strings]
  rfl

end Builtin

/-- **Splitting and joining undo each other.**  What was split joins to its own text.  What was joined
splits into itself exactly where the delimiter, looked for from an item on, is first found behind that
item, and is not found in the last one.  All this is so for numbers that can be shown; neither function
answers for any other. -/
theorem split_join_inverse (clock : Moment) (context : Value) :
    (∀ subject delimiter : Value, subject.IsTextual → delimiter.IsTextual → Shown [subject, delimiter] →
      ∃ pieces, Builtin.split.call clock context [subject, delimiter] = .ok pieces ∧
        Builtin.join.call clock context [pieces, delimiter] = .ok (.ofText subject.text)) ∧
    (∀ (items : List String) (some : items ≠ []) (delimiter : Value), delimiter.IsTextual →
      delimiter.isShowable = true →
      ∃ joined, Builtin.join.call clock context [.array (items.map .string), delimiter] = .ok joined ∧
        (delimiter.text ≠ [] →
          (Builtin.split.call clock context [joined, delimiter] = .ok (.array (items.map .string)) ↔
            (∀ x ∈ items.dropLast, Text.FirstAt delimiter.text (x.toList ++ delimiter.text) x.length) ∧
              ¬ delimiter.text <:+: (items.getLast some).toList)) ∧
        (delimiter.text = [] →
          (Builtin.split.call clock context [joined, delimiter] = .ok (.array (items.map .string)) ↔
            ∀ x ∈ items, x.length = 1))) ∧
    ∀ b ∈ [Builtin.split, .join], ∀ v delimiter : Value, ¬ Shown [v, delimiter] →
      b.call clock context [v, delimiter] = .error (.tooLong none) := by
  refine ⟨?_, ?_, ?_⟩
  · intro subject delimiter subjectTextual textual shown
    obtain ⟨subjectShowable, showable⟩ := by simpa [Shown] using shown
    refine ⟨_, Builtin.call_split textual showable context subjectTextual subjectShowable, ?_⟩
    rw [map_ofText, Builtin.call_join_strings textual showable, List.map_map]
    simp only [Function.comp_def, String.toList_ofList, List.map_id', Text.glue_cut]
  · intro items some delimiter textual showable
    refine ⟨_, Builtin.call_join_strings textual showable context items, ?_⟩
    rw [Builtin.call_split textual showable context (Value.isTextual_ofText _) (Value.isShowable_string _),
      Value.text_ofText, Except.ok.injEq, Value.array.injEq, map_ofText_eq_iff]
    constructor
    · intro nonempty
      rw [Text.cut_glue_iff nonempty _ (by simpa using some), Text.Separated, ← List.map_dropLast,
        List.getLast_map, List.forall_mem_map]
      simp only [String.length_toList]
    · intro empty
      rw [empty, Text.cut_nil_glue_iff, List.forall_mem_map]
      simp only [String.length_toList]
  · intro b _ v delimiter hidden
    exact Definition.call_of_hidden hidden _ context

/-- A number split at a digit of its own; texts that come back though the delimiter shares characters
with them; texts that do not come back, because the delimiter already begins in the first; and an integer
that is too long to be split at. -/
theorem split_join_overlap :
    (∃ pieces, Builtin.split.call .midnight .null [.int 1010, .int 0] = .ok pieces ∧
      Builtin.join.call .midnight .null [pieces, .int 0] = .ok (.ofText (Value.int 1010).text)) ∧
    (∃ joined, Builtin.join.call .midnight .null [.array (["b", "", "ba"].map .string), .string "ab"] = .ok joined ∧
      Builtin.split.call .midnight .null [joined, .string "ab"] = .ok (.array (["b", "", "ba"].map .string))) ∧
    (∃ joined, Builtin.join.call .midnight .null [.array (["a", "b"].map .string), .string "aa"] = .ok joined ∧
      Builtin.split.call .midnight .null [joined, .string "aa"] ≠ .ok (.array (["a", "b"].map .string))) ∧
    (∃ joined, Builtin.join.call .midnight .null [.array (["a", "b"].map .string), .string ""] = .ok joined ∧
      Builtin.split.call .midnight .null [joined, .string ""] = .ok (.array (["a", "b"].map .string))) ∧
    Builtin.split.call .midnight .null [.string "ab", .int Text.longInteger] = .error (.tooLong none) := by
  obtain ⟨undone, back, refused⟩ := split_join_inverse .midnight .null
  have numbers : Shown [.int 1010, .int 0] := by
    have writable : Text.isWritable 1010 = true ∧ Text.isWritable 0 = true := by decide +kernel
    simp [Shown, Value.int, Value.isShowable, Number.isShowable, writable]
  refine ⟨undone _ _ (.number _) (.number _) numbers, ?_, ?_, ?_,
    refused _ (by simp) _ _ (not_shown_of_mem (by simp) Value.isShowable_longInteger)⟩
  · obtain ⟨joined, made, same, -⟩ := back ["b", "", "ba"] (by decide) (.string "ab") (.text _) rfl
    exact ⟨joined, made, (same (by decide)).2 (by decide)⟩
  · obtain ⟨joined, made, same, -⟩ := back ["a", "b"] (by decide) (.string "aa") (.text _) rfl
    exact ⟨joined, made, fun equal => absurd ((same (by decide)).1 equal) (by decide)⟩
  · obtain ⟨joined, made, -, same⟩ := back ["a", "b"] (by decide) (.string "") (.text _) rfl
    exact ⟨joined, made, (same (by decide)).2 (by decide)⟩

/-- An integer of more digits than are written has no pieces, and so they are not joined to its text. -/
theorem split_longInteger :
    (Value.int Text.longInteger).IsTextual ∧ (Value.string ",").IsTextual ∧
      ∀ pieces, Builtin.split.call .midnight .null [.int Text.longInteger, .string ","] ≠ .ok pieces := by
  have hidden : ¬ Shown [.int Text.longInteger, .string ","] :=
    not_shown_of_mem (by simp) Value.isShowable_longInteger
  refine ⟨.number _, .text _, fun pieces answered => ?_⟩
  rw [Builtin.call, Definition.call_of_hidden hidden] at answered
  cases answered

end TemplateBuiltins
