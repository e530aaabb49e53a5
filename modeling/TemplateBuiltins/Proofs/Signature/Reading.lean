/-
# Proofs.Signature.Reading -- which texts denote signatures

A text denotes a signature (`Signature.Denotes`) if its parts between the bars, each without
the blanks around it, are the names of the alternatives, one for one.  Reading finds that
signature and no other (`ofText_eq_ok_iff`).  Splitting two texts with a bar between them
is splitting the one and then the other, so what they denote together is what the one
denotes and then the other (`denotes_append_bar`).  What a signature is written as denotes
it (`denotes_text`).

A text that denotes none is refused (`Signature.Refused`): for its first part that names no
kind, or, if there are only blanks in it, for having nothing in it.

A declaration reads what it is given for its signatures, and a signature that was read
before is read as itself.  So a declaration that is given one in place of a text that
denotes it comes to the same (`Declaration.define_congr`).  All this together is what there
is to say about reading a text for a signature (`Value.signature?_by_parts`).
-/
import TemplateBuiltins.Proofs.Calls.Outcome
import TemplateBuiltins.Proofs.Lists.Related

set_option autoImplicit false

namespace TemplateBuiltins

namespace Signature

variable {text a b : List Char} {s r : Signature}

/-! ## Texts that denote a signature -/

/-- The parts between the bars are the names of the alternatives but for the blanks around them. -/
def Denotes (text : List Char) (s : Signature) : Prop :=
  List.Forall₂ (fun part k => Text.Stripped part k.name.toList) (text.splitOn '|') s.alternatives

theorem denotes_iff (text : List Char) (s : Signature) :
    Denotes text s ↔ kinds (parts text) = .ok s.alternatives := by
  rw [kinds_eq_ok_iff, parts, Text.pieces_singleton, ← List.forall₂_eq_eq_eq, List.forall₂_map_left_iff,
    List.forall₂_map_right_iff, Denotes]
  simp only [Text.stripped_iff]

/-- A bar is no blank, so nothing but blanks is one part, and that names nothing. -/
theorem not_blank_of_denotes (denotes : Denotes text s) : Text.isAllBlank text = false := by
  rw [← Bool.not_eq_true, Text.isAllBlank, List.all_eq_true]
  intro blank
  have whole : '|' ∉ text := fun inside => absurd (blank '|' inside) (by decide)
  rw [Denotes, List.splitOn_eq_singleton whole] at denotes
  obtain ⟨k, ks, named, -, -⟩ := List.forall₂_cons_left_iff.1 denotes
  rw [Text.stripped_iff, Text.trim_of_blank blank] at named
  exact k.name_ne_nil named.symm

/-- **Reading finds the signature that a text denotes, and only that.** -/
theorem ofText_eq_ok_iff (text : List Char) (s : Signature) : ofText text = .ok s ↔ Denotes text s := by
  constructor
  · intro read
    rw [denotes_iff, kinds_eq_ok_iff]
    exact map_trim_of_ofText read
  · intro denotes
    exact ofText_eq_ok (not_blank_of_denotes denotes) ((denotes_iff text s).1 denotes)

theorem Denotes.unique (first : Denotes text s) (second : Denotes text r) : s = r := by
  rw [← ofText_eq_ok_iff] at first second
  rw [first] at second
  exact Except.ok.inj second

theorem exists_denotes_iff (text : List Char) :
    (∃ s, Denotes text s) ↔ ∀ part ∈ text.splitOn '|', ∃ k : Kind, Text.Stripped part k.name.toList := by
  rw [← Lists.exists_forall₂_iff]
  constructor
  · rintro ⟨s, denotes⟩
    exact ⟨s.alternatives, denotes⟩
  · rintro ⟨ks, names⟩
    refine ⟨⟨ks, ?_⟩, names⟩
    rintro rfl
    exact List.splitOn_ne_nil _ _ (List.forall₂_nil_right_iff.1 names)

/-! ## Texts with a bar between them -/

/-- The alternatives of one signature and then those of another. -/
def join (s r : Signature) : Signature :=
  ⟨s.alternatives ++ r.alternatives, by simp [s.inhabited]⟩

theorem denotes_append_bar (first : Denotes a s) (second : Denotes b r) :
    Denotes (a ++ '|' :: b) (s.join r) := by
  rw [Denotes, List.splitOn_append_cons_self]
  exact List.rel_append first second

theorem exists_denotes_append_bar_iff (a b : List Char) :
    (∃ u, Denotes (a ++ '|' :: b) u) ↔ (∃ s, Denotes a s) ∧ ∃ r, Denotes b r := by
  rw [exists_denotes_iff, exists_denotes_iff, exists_denotes_iff, List.splitOn_append_cons_self,
    List.forall_mem_append]

theorem text_join (s r : Signature) : (s.join r).text = s.text ++ '|' :: r.text := by
  have names (u : Signature) : u.alternatives.map (·.name.toList) ≠ [] := by simp [u.inhabited]
  rw [text, join, List.map_append, Text.glue_append ['|'] (names s) (names r)]
  simp [text]

/-! ## The text of a signature -/

theorem stripped_name (k : Kind) : Text.Stripped k.name.toList k.name.toList := by
  refine ⟨⟨[], [], by simp, by simp⟩, ?_, ?_⟩
  · intro c front
    exact k.not_blank_of_mem_name c (List.mem_of_mem_head? front)
  · intro c back
    exact k.not_blank_of_mem_name c (List.mem_of_getLast? back)

theorem bar_notMem_name (k : Kind) : '|' ∉ k.name.toList := by cases k <;> decide

/-- Between the bars of what a signature is written as stand the names of its alternatives. -/
theorem splitOn_text (s : Signature) : s.text.splitOn '|' = s.alternatives.map (·.name.toList) := by
  rw [text, Text.glue_eq_intercalate]
  apply List.splitOn_intercalate
  · simp [bar_notMem_name]
  · simp [s.inhabited]

/-- **What a signature is written as denotes it.** -/
theorem denotes_text (s : Signature) : Denotes s.text s := by
  rw [Denotes, splitOn_text, List.forall₂_map_left_iff, List.forall₂_same]
  intro k _
  exact stripped_name k

/-! ## Texts that are refused -/

theorem kinds_of_named {part : List Char} {k : Kind} (named : Text.trim part = k.name.toList)
    (parts : List (List Char)) : kinds (part :: parts) = (kinds parts).map (k :: ·) := by
  rw [kinds, (Kind.ofName?_ofList_iff _ k).2 named]

theorem kinds_of_unknown {part : List Char} (unknown : ∀ k : Kind, Text.trim part ≠ k.name.toList)
    (parts : List (List Char)) : kinds (part :: parts) = .error (.unknownKind (Text.trim part)) := by
  rw [kinds]
  cases found : Kind.ofName? (String.ofList (Text.trim part)) with
  | none => rfl
  | some k => exact absurd ((Kind.ofName?_ofList_iff _ k).1 found) (unknown k)

/-- The first part that names no kind is at fault. -/
theorem kinds_eq_error_iff (parts : List (List Char)) (fault : TextFault) :
    kinds parts = .error fault ↔ ∃ before part behind, parts = before ++ part :: behind ∧
      (∀ p ∈ before, ∃ k : Kind, Text.trim p = k.name.toList) ∧
      (∀ k : Kind, Text.trim part ≠ k.name.toList) ∧ fault = .unknownKind (Text.trim part) := by
  constructor
  · intro refused
    induction parts with
    | nil => cases refused
    | cons first parts ih =>
        by_cases named : ∃ k : Kind, Text.trim first = k.name.toList
        · obtain ⟨k, named⟩ := named
          rw [kinds_of_named named] at refused
          cases rest : kinds parts with
          | ok ks =>
              rw [rest] at refused
              cases refused
          | error e =>
              rw [rest] at refused
              cases refused
              obtain ⟨before, part, behind, rfl, known, unknown, rfl⟩ := ih rest
              exact ⟨first :: before, part, behind, rfl, List.forall_mem_cons.2 ⟨⟨k, named⟩, known⟩, unknown, rfl⟩
        · rw [not_exists] at named
          rw [kinds_of_unknown named] at refused
          cases refused
          exact ⟨[], first, parts, rfl, by simp, named, rfl⟩
  · rintro ⟨before, part, behind, rfl, known, unknown, rfl⟩
    induction before with
    | nil => exact kinds_of_unknown unknown behind
    | cons p before ih =>
        obtain ⟨⟨k, named⟩, known⟩ := List.forall_mem_cons.1 known
        rw [List.cons_append, kinds_of_named named, ih known]
        rfl

theorem ofText_eq_error_iff (text : List Char) (fault : TextFault) :
    ofText text = .error fault ↔
      (Text.isAllBlank text = true ∧ fault = .blank) ∨
        Text.isAllBlank text = false ∧ kinds (parts text) = .error fault := by
  unfold ofText
  by_cases blank : Text.isAllBlank text = true
  · simp [blank, eq_comm]
  · simp only [blank, Bool.false_eq_true, ↓reduceIte]
    split
    · rename_i ks read
      simp [read]
    · rename_i e read
      simp [read]

/-- The report on a text that denotes no signature: it has nothing but blanks in it, or a first part that
names no kind. -/
inductive Refused (text : String) : Failure.Report → Prop
  | blank (nothing : ∀ c ∈ text.toList, Text.isBlank c = true) :
      Refused text ⟨.signature, "Type signature must be a non-empty string.", [("signature", .string text)]⟩
  | unknownKind {before behind : List (List Char)} {part name : List Char}
      (something : ∃ c ∈ text.toList, Text.isBlank c = false)
      (stands : text.toList.splitOn '|' = before ++ part :: behind)
      (known : ∀ p ∈ before, ∃ k : Kind, Text.Stripped p k.name.toList)
      (stripped : Text.Stripped part name) (unknown : ∀ k : Kind, name ≠ k.name.toList) :
      Refused text ⟨.signature, s!"Unknown value kind '{String.ofList name}'.", [("signature", .string text)]⟩

end Signature

/-! ## Signatures as values -/

namespace Value

theorem signature?_string_iff (text : String) (s : Signature) :
    (string text).signature? = .ok s ↔ Signature.Denotes text.toList s := by
  rw [← Signature.ofText_eq_ok_iff, signature?]
  cases Signature.ofText text.toList <;> simp

theorem exists_signature?_string_iff (text : String) :
    (∃ s, (string text).signature? = .ok s) ↔
      ∀ part ∈ text.toList.splitOn '|', ∃ k : Kind, Text.Stripped part k.name.toList := by
  simp only [signature?_string_iff, Signature.exists_denotes_iff]

/-- A text is refused exactly for what is at fault in it. -/
theorem refused_iff (text : String) (report : Failure.Report) :
    (string text).signature?.mapError SignatureFault.report = .error report ↔ Signature.Refused text report := by
  have opened : (string text).signature?.mapError SignatureFault.report = .error report ↔
      ∃ cause, Signature.ofText text.toList = .error cause ∧
        SignatureFault.report ⟨.string text, cause⟩ = report := by
    rw [signature?]
    cases Signature.ofText text.toList <;> simp [Except.mapError]
  rw [opened]
  simp only [Signature.ofText_eq_error_iff, Signature.kinds_eq_error_iff, Signature.parts, Text.pieces_singleton]
  constructor
  · rintro ⟨cause, ⟨blank, rfl⟩ | ⟨something, before, part, behind, stands, known, unknown, rfl⟩, rfl⟩
    · exact .blank (List.all_eq_true.1 blank)
    · refine .unknownKind ?_ stands ?_ ((Text.stripped_iff part _).2 rfl) unknown
      · simpa [Text.isAllBlank] using something
      · simpa only [Text.stripped_iff] using known
  · intro refused
    cases refused with
    | blank nothing => exact ⟨.blank, .inl ⟨List.all_eq_true.2 nothing, rfl⟩, rfl⟩
    | @unknownKind before behind part name something stands known stripped unknown =>
        rw [Text.stripped_iff] at stripped
        subst stripped
        refine ⟨_, .inr ⟨?_, before, part, behind, stands, ?_, unknown, rfl⟩, rfl⟩
        · simpa [Text.isAllBlank] using something
        · simpa only [Text.stripped_iff] using known

end Value

/-! ## Declarations that read the same -/

namespace Declaration

/-- Values that are read the same make lists that are read the same. -/
theorem signatures_congr {R : Value → Value → Prop} (alike : ∀ v w, R v w → w.signature? = v.signature?)
    {given other : List Value} (same : List.Forall₂ R given other) : signatures other = signatures given := by
  induction same with
  | nil => rfl
  | cons first _ ih => rw [signatures, signatures, alike _ _ first, ih]

theorem variadicSignature_congr {R : Value → Value → Prop}
    (alike : ∀ v w, R v w → w.signature? = v.signature?)
    {given other : Option Value} (same : Option.Rel R given other) :
    variadicSignature other = variadicSignature given := by
  cases same with
  | none => rfl
  | some first => rw [variadicSignature, variadicSignature, alike _ _ first]

/-- The second declaration is the first with one value exchanged for another, in some or all of the
places where the first gives it for a signature. -/
structure Exchanged (v w : Value) (declared other : Declaration) : Prop where
  positions : List.Forall₂ (fun given new => new = given ∨ given = v ∧ new = w)
    declared.positions other.positions
  variadic : Option.Rel (fun given new => new = given ∨ given = v ∧ new = w)
    declared.variadic other.variadic
  name : other.name = declared.name
  minimum : other.minimum = declared.minimum
  body : other.body = declared.body

/-- Values that are read as the same signature can be exchanged. -/
theorem define_congr {v w : Value} {declared other : Declaration} (same : w.signature? = v.signature?)
    (exchanged : declared.Exchanged v w other) : other.define = declared.define := by
  have alike : ∀ given new, new = given ∨ given = v ∧ new = w → new.signature? = given.signature? := by
    rintro given new (rfl | ⟨rfl, rfl⟩)
    · rfl
    · exact same
  have positions := signatures_congr alike exchanged.positions
  have variadic := variadicSignature_congr alike exchanged.variadic
  rw [define, define, positions, variadic, exchanged.name, exchanged.minimum, exchanged.body]

end Declaration

/-! ## Reading as a whole -/

namespace Value

/-- **Reading a text for a signature is settled by its parts.**

It succeeds on texts with a bar between them exactly if it does on both, with the alternatives of both
and with their texts about a bar.  It succeeds on a text exactly if all parts are names of kinds but for
blanks, and refuses every other text for what is at fault in it.  A signature that was read has an
alternative, is read back from its own text, and comes to the same in a declaration as the text. -/
theorem signature?_by_parts :
    (∀ a b : String,
      ((∃ u, (string (a ++ "|" ++ b)).signature? = .ok u) ↔
        (∃ s, (string a).signature? = .ok s) ∧ ∃ r, (string b).signature? = .ok r) ∧
      ∀ s r u, (string a).signature? = .ok s → (string b).signature? = .ok r →
        (string (a ++ "|" ++ b)).signature? = .ok u →
          (∀ k, k ∈ u.alternatives ↔ k ∈ s.alternatives ∨ k ∈ r.alternatives) ∧
            u.text = s.text ++ '|' :: r.text) ∧
    (∀ t : String,
      ((∃ s, (string t).signature? = .ok s) ↔
        ∀ part ∈ t.toList.splitOn '|', ∃ k : Kind, Text.Stripped part k.name.toList) ∧
      ∀ report, (string t).signature?.mapError SignatureFault.report = .error report ↔
        Signature.Refused t report) ∧
    ∀ (t : String) (s : Signature), (string t).signature? = .ok s →
      (∃ k, k ∈ s.alternatives) ∧ (ofText s.text).signature? = .ok s ∧
        ∀ declared other : Declaration, declared.Exchanged (.string t) (.signature s) other →
          other.define = declared.define := by
  refine ⟨fun a b => ⟨?_, ?_⟩, fun t => ⟨exists_signature?_string_iff t, refused_iff t⟩, ?_⟩
  · have whole : (a ++ "|" ++ b).toList = a.toList ++ '|' :: b.toList := by simp
    simp only [signature?_string_iff, whole, Signature.exists_denotes_append_bar_iff]
  · intro s r u first second both
    rw [signature?_string_iff] at first second both
    have whole : (a ++ "|" ++ b).toList = a.toList ++ '|' :: b.toList := by simp
    rw [whole] at both
    obtain rfl := both.unique (Signature.denotes_append_bar first second)
    exact ⟨fun k => List.mem_append, Signature.text_join s r⟩
  · intro t s read
    refine ⟨List.exists_mem_of_ne_nil _ s.inhabited, ?_, ?_⟩
    · rw [ofText, signature?_string_iff, String.toList_ofList]
      exact Signature.denotes_text s
    · intro declared other exchanged
      exact Declaration.define_congr (read.symm ▸ rfl) exchanged

/-- Blanks, a part that stands twice, and a second bar with nothing behind it. -/
theorem signature?_by_parts_null :
    (∃ u, (string ("string" ++ "|" ++ " number | null")).signature? = .ok u ∧
      u.text = "string|number|null".toList) ∧
    ((string "null||null").signature?.mapError SignatureFault.report = .error
      ⟨.signature, "Unknown value kind ''.", [("signature", .string "null||null")]⟩) ∧
    Declaration.define { Declaration.pair with
      positions := [.string "string", .signature (.anyOf .number [.null])] } = Declaration.pair.define := by
  obtain ⟨joined, single, read⟩ := signature?_by_parts
  refine ⟨?_, ?_, ?_⟩
  · obtain ⟨split, both⟩ := joined "string" " number | null"
    obtain ⟨u, ok⟩ := split.2 ⟨⟨_, Declaration.signature?_pair_first⟩, _, Declaration.signature?_pair_second⟩
    obtain ⟨-, text⟩ := both _ _ u Declaration.signature?_pair_first Declaration.signature?_pair_second ok
    exact ⟨u, ok, text⟩
  · apply ((single "null||null").2 _).2
    have known : ∀ p ∈ ["null".toList], ∃ k : Kind, Text.Stripped p k.name.toList := by
      simp only [List.mem_singleton, forall_eq]
      exact ⟨.null, Signature.stripped_name .null⟩
    have stripped : Text.Stripped [] [] := (Text.stripped_iff _ _).2 rfl
    have unknown (k : Kind) : [] ≠ k.name.toList := k.name_ne_nil.symm
    have something : ∃ c ∈ "null||null".toList, Text.isBlank c = false := ⟨'n', by decide, rfl⟩
    have stands : "null||null".toList.splitOn '|' = ["null".toList] ++ [] :: ["null".toList] := by decide
    exact .unknownKind something stands known stripped unknown
  · obtain ⟨-, -, exchange⟩ := read " number | null" (.anyOf .number [.null]) Declaration.signature?_pair_second
    apply exchange
    refine ⟨?_, .none, rfl, rfl, rfl⟩
    exact .cons (.inl rfl) (.cons (.inr ⟨rfl, rfl⟩) .nil)

end Value

end TemplateBuiltins
