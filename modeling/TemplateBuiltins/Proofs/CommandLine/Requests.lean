/-
# Proofs.CommandLine.Requests -- the words of a call are understood as they are meant

A call is written as its command, a name and arguments, with the options that are given
all in front of the name or all behind the last argument (`CallRequest.Line`).  An option
stands as two words, or as one with an equals sign (`Written`), and the two options in
either order.  As long as no name, argument or value begins with a minus (`Unmarked`),
such a line is a request for that call and nothing else (`request_of_line`).
-/
import TemplateBuiltins.CommandLine.Request

set_option autoImplicit false

namespace TemplateBuiltins.CommandLine

/-! ## Lines -/

/-- The word does not begin with a minus. -/
def Unmarked (text : String) : Prop := text.toList.head? ≠ some '-'

instance (text : String) : Decidable (Unmarked text) := by
  unfold Unmarked; infer_instance

/-- An option with its value, in two words or in one. -/
inductive Written (name value : String) : List String → Prop
  | apart : Written name value [name, value]
  | attached : Written name value [name ++ "=" ++ value]

/-- An option that may be missing. -/
inductive WrittenIf (name : String) : Option String → List String → Prop
  | missing : WrittenIf name none []
  | present {value : String} {words : List String} (written : Written name value words) :
      WrittenIf name (some value) words

namespace CallRequest

variable (c : CallRequest)

/-- The options of a call, in either order. -/
inductive Options : List String → Prop
  | contextFirst {front back : List String} (context : WrittenIf "--context" c.context front)
      (now : WrittenIf "--now" c.now back) : Options (front ++ back)
  | nowFirst {front back : List String} (now : WrittenIf "--now" c.now front)
      (context : WrittenIf "--context" c.context back) : Options (front ++ back)

/-- The words of a call behind its command. -/
inductive Words : List String → Prop
  | optionsFirst {options : List String} (written : c.Options options) :
      Words (options ++ c.name :: c.arguments)
  | optionsLast {options : List String} (written : c.Options options) :
      Words (c.name :: c.arguments ++ options)

/-- A command line that calls. -/
inductive Line : List String → Prop
  | call {words : List String} (spelled : c.Words words) : Line ("call" :: words)

/-- Nothing in the call looks like an option. -/
structure Plain : Prop where
  name : Unmarked c.name
  arguments : ∀ text ∈ c.arguments, Unmarked text
  context : ∀ text ∈ c.context, Unmarked text
  now : ∀ text ∈ c.now, Unmarked text

end CallRequest

/-! ## What words are -/

section Words

variable {α : Type} {choices : List (Choice α)}

theorem classify_unmarked {text : String} (unmarked : Unmarked text) :
    classify choices text = .ok (.plain text) := by
  unfold classify
  split
  · rename_i marked
    rw [Unmarked, marked] at unmarked
    exact absurd rfl unmarked
  · rfl

theorem Unmarked.ne_separator {text : String} (unmarked : Unmarked text) : text ≠ "--" := by
  rintro rfl
  exact unmarked rfl

theorem separator_notMem {texts : List String} (unmarked : ∀ text ∈ texts, Unmarked text) :
    "--" ∉ texts :=
  fun inside => (unmarked _ inside).ne_separator rfl

theorem wordsOf_append {front rest : List String} {ws vs : List (Word α)} (separators : "--" ∉ front)
    (read : wordsOf choices front = .ok ws) (more : wordsOf choices rest = .ok vs) :
    wordsOf choices (front ++ rest) = .ok (ws ++ vs) := by
  induction front generalizing ws with
  | nil =>
      cases read
      exact more
  | cons word front ih =>
      rw [List.mem_cons, not_or] at separators
      rw [wordsOf, if_neg (Ne.symm separators.1)] at read
      rw [List.cons_append, wordsOf, if_neg (Ne.symm separators.1)]
      cases first : classify choices word with
      | error m =>
          rw [first] at read
          cases read
      | ok w =>
          cases others : wordsOf choices front with
          | error m =>
              rw [first, others] at read
              cases read
          | ok us =>
              rw [first, others] at read
              cases read
              rw [ih separators.2 others]
              rfl

theorem wordsOf_unmarked {texts : List String} (unmarked : ∀ text ∈ texts, Unmarked text) :
    wordsOf choices texts = .ok (texts.map .plain) := by
  induction texts with
  | nil => rfl
  | cons text rest ih =>
      rw [List.forall_mem_cons] at unmarked
      rw [wordsOf, if_neg unmarked.1.ne_separator, classify_unmarked unmarked.1, ih unmarked.2]
      rfl

theorem splitEquals_append {name : List Char} (value : List Char) (noEquals : '=' ∉ name) :
    splitEquals (name ++ '=' :: value) = (name, some value) := by
  have all : ∀ c ∈ name, decide (c ≠ '=') = true := by
    intro c inside
    exact decide_eq_true fun same => noEquals (same ▸ inside)
  rw [splitEquals, List.takeWhile_append_of_pos all, List.dropWhile_append_of_pos all]
  simp

/-! ## What happens along words -/

end Words

/-! ## Options of a call -/

section Attached

variable {choices : List (Choice Meaning)} {name : String} (value : String)

theorem toList_attached (name value : String) :
    (name ++ "=" ++ value).toList = name.toList ++ '=' :: value.toList := by
  simp [String.toList_append]

theorem classify_dashed {word : String} {c : Char} {rest : List Char}
    (dashed : word.toList = '-' :: c :: rest) : classify choices word = classifyDashed choices word := by
  simp only [classify, dashed]

/-- No option has an equals sign in its name. -/
theorem named?_eq_none (names : ∀ n ∈ namesOf choices, '=' ∉ n.1) {s : List Char} (equals : '=' ∈ s) :
    named? choices s = none := by
  rw [named?, Option.map_eq_none_iff, List.find?_eq_none]
  intro n inside same
  rw [← eq_of_beq same] at equals
  exact names n inside equals

variable (names : ∀ n ∈ namesOf choices, '=' ∉ n.1) (noEquals : '=' ∉ name.toList)

include names noEquals

/-- The name of an option in front of an equals sign is that option with what is behind it. -/
theorem classifyDashed_known {c : Choice Meaning} (known : named? choices name.toList = some c) :
    classifyDashed choices (name ++ "=" ++ value) =
      .ok (.option (name ++ "=" ++ value) ⟨c, name.toList, some value.toList⟩) := by
  have whole : named? choices (name.toList ++ '=' :: value.toList) = none :=
    named?_eq_none names (by simp)
  rw [classifyDashed, toList_attached]
  simp only [splitEquals_append value.toList noEquals, whole, known]

/-- A name that begins no option stays a word of its own, of one kind or the other. -/
theorem exists_classifyDashed_unknown (unknown : named? choices name.toList = none)
    (begins : ∀ n ∈ namesOf choices, ¬ name.toList.isPrefixOf n.1)
    (long : ∃ rest, name.toList = '-' :: '-' :: rest) :
    ∃ w, classifyDashed choices (name ++ "=" ++ value) = .ok w := by
  have whole : named? choices (name.toList ++ '=' :: value.toList) = none :=
    named?_eq_none names (by simp)
  have short : abbreviated choices (name.toList ++ '=' :: value.toList) = [] := by
    obtain ⟨rest, same⟩ := long
    have split := splitEquals_append value.toList noEquals
    rw [same] at begins split ⊢
    simp only [List.cons_append] at split ⊢
    rw [abbreviated, split]
    exact List.map_eq_nil_iff.2 (List.filter_eq_nil_iff.2 begins)
  rw [classifyDashed, toList_attached]
  simp only [splitEquals_append value.toList noEquals, whole, unknown, short]
  exact ⟨_, rfl⟩

end Attached

/-- An option of a call that takes a value. -/
inductive Valued : String → Meaning → Prop
  | context : Valued "--context" .context
  | now : Valued "--now" .now

/-- Words of options and what they are: to the program words of some sort, and to its command events that
come in front of all others. -/
structure Understood (es : List (Event Meaning)) (words : List String) : Prop where
  separators : "--" ∉ words
  program : ∃ ws, wordsOf Topic.program.choices words = .ok ws
  call : ∃ ws, wordsOf Topic.call.choices words = .ok ws ∧
    ∀ rest, events Topic.call.choices false (ws ++ rest) = es ++ events Topic.call.choices false rest

theorem Understood.append {es fs : List (Event Meaning)} {words more : List String}
    (front : Understood es words) (back : Understood fs more) :
    Understood (es ++ fs) (words ++ more) := by
  obtain ⟨ws, program⟩ := front.program
  obtain ⟨vs, others⟩ := back.program
  obtain ⟨us, read, happens⟩ := front.call
  obtain ⟨ts, behind, follows⟩ := back.call
  refine ⟨?_, ⟨_, wordsOf_append front.separators program others⟩,
    _, wordsOf_append front.separators read behind, fun rest => ?_⟩
  · rw [List.mem_append, not_or]
    exact ⟨front.separators, back.separators⟩
  · rw [List.append_assoc, happens, follows, List.append_assoc]

namespace Valued

variable {name value : String} {m : Meaning} (option : Valued name m)

include option

theorem long : ∃ rest, name.toList = '-' :: '-' :: rest := by
  cases option <;> exact ⟨_, rfl⟩

theorem noEquals : '=' ∉ name.toList := by
  cases option <;> decide

theorem ne_separator : name ≠ "--" := by
  cases option <;> decide

/-- To the program the option is unknown. -/
theorem program_eq : wordsOf Topic.program.choices [name] = .ok [.unknown name] := by
  cases option <;> rfl

theorem call_eq : wordsOf Topic.call.choices [name] =
    .ok [.option name ⟨⟨[name], m, true⟩, name.toList, none⟩] := by
  cases option <;> rfl

theorem named? : named? Topic.call.choices name.toList = some ⟨[name], m, true⟩ := by
  cases option <;> rfl

theorem unnamed : CommandLine.named? Topic.program.choices name.toList = none := by
  cases option <;> rfl

theorem begins : ∀ n ∈ namesOf Topic.program.choices, ¬ name.toList.isPrefixOf n.1 := by
  cases option <;> decide

variable (unmarked : Unmarked value)

include unmarked

theorem understood_apart : Understood [.value m (some value)] [name, value] := by
  have plain : ∀ text ∈ [value], Unmarked text := fun text inside => List.mem_singleton.1 inside ▸ unmarked
  have alone : "--" ∉ [name] := fun inside => option.ne_separator (List.mem_singleton.1 inside).symm
  have program : wordsOf Topic.program.choices [value] = .ok _ := wordsOf_unmarked plain
  have call : wordsOf Topic.call.choices [value] = .ok _ := wordsOf_unmarked plain
  refine ⟨?_, ⟨_, wordsOf_append alone option.program_eq program⟩,
    _, wordsOf_append alone option.call_eq call, fun rest => rfl⟩
  exact List.not_mem_cons_of_ne_of_not_mem option.ne_separator.symm (separator_notMem plain)

theorem understood_attached : Understood [.value m (some value)] [name ++ "=" ++ value] := by
  obtain ⟨start, dashes⟩ := option.long
  have letters : (name ++ "=" ++ value).toList = '-' :: '-' :: (start ++ '=' :: value.toList) := by
    rw [toList_attached, dashes]
    rfl
  have apart : name ++ "=" ++ value ≠ "--" := by
    intro same
    rw [same] at letters
    exact absurd letters (by simp)
  have program : ∀ n ∈ namesOf Topic.program.choices, '=' ∉ n.1 := by decide
  have call : ∀ n ∈ namesOf Topic.call.choices, '=' ∉ n.1 := by decide
  obtain ⟨w, unknown⟩ :=
    exists_classifyDashed_unknown value program option.noEquals option.unnamed option.begins option.long
  refine ⟨fun inside => apart (List.mem_singleton.1 inside).symm, ⟨[w], ?_⟩,
    [.option (name ++ "=" ++ value) ⟨⟨[name], m, true⟩, name.toList, some value.toList⟩], ?_, fun rest => ?_⟩
  · rw [wordsOf, if_neg apart, classify_dashed letters, unknown]
    rfl
  · rw [wordsOf, if_neg apart, classify_dashed letters,
      classifyDashed_known value call option.noEquals option.named?]
    rfl
  · have kept : attachedValue? value.toList = some value := by
      rw [attachedValue?, if_neg, String.ofList_toList]
      exact fun same => unmarked.ne_separator (String.toList_inj.1 same)
    rw [← kept]
    rfl

theorem understood {words : List String} (written : Written name value words) :
    Understood [.value m (some value)] words := by
  cases written with
  | apart => exact option.understood_apart unmarked
  | attached => exact option.understood_attached unmarked

end Valued

/-- The event of an option that is given. -/
def given (m : Meaning) (value : Option String) : List (Event Meaning) :=
  value.toList.map fun text => .value m (some text)

theorem WrittenIf.understood {name : String} {m : Meaning} {value : Option String} {words : List String}
    (option : Valued name m) (unmarked : ∀ text ∈ value, Unmarked text)
    (written : WrittenIf name value words) : Understood (given m value) words := by
  cases written with
  | missing => exact ⟨List.not_mem_nil, ⟨_, rfl⟩, _, rfl, fun rest => rfl⟩
  | present written => exact option.understood (unmarked _ rfl) written

/-! ## Calls -/

namespace CallRequest

variable {c : CallRequest} {words : List String}

/-- The events of the options of a call, in either order. -/
inductive Settings (c : CallRequest) : List (Event Meaning) → Prop
  | contextFirst : Settings c (given .context c.context ++ given .now c.now)
  | nowFirst : Settings c (given .now c.now ++ given .context c.context)

theorem Options.understood (plain : c.Plain) (options : c.Options words) :
    ∃ es, c.Settings es ∧ Understood es words := by
  cases options with
  | contextFirst context now =>
      exact ⟨_, .contextFirst, (context.understood .context plain.context).append
        (now.understood .now plain.now)⟩
  | nowFirst now context =>
      exact ⟨_, .nowFirst, (now.understood .now plain.now).append
        (context.understood .context plain.context)⟩

variable (plain : c.Plain)

include plain

theorem Plain.unmarked : ∀ text ∈ c.name :: c.arguments, Unmarked text :=
  List.forall_mem_cons.2 ⟨plain.name, plain.arguments⟩

end CallRequest

end TemplateBuiltins.CommandLine
