/-
# CommandLine.Run -- answering a command line

An answer has an exit code and what is written to the two outputs.  A call is
answered with the JSON text of its value; a context that is not a JSON object, and
a call that fails, are answered with a message and exit code 1; a misused command
line is answered with a usage, a message and exit code 2.  An argument is taken as
JSON, or as a text if it is not JSON.  A context that is not JSON is also recorded in
the log, which is written to the error output in front of the message; records of what is
no error are left out here.

Some things have no answer and fail as they are: a level of logging without a value, an
integer of too many digits in a context, in an argument or as the value of a call, and a
call whose failure is not one of the family of failed calls.
-/
import TemplateBuiltins.Catalog
import TemplateBuiltins.CommandLine.Request
import TemplateBuiltins.Json.Reader
import TemplateBuiltins.Suggestion

set_option autoImplicit false

namespace TemplateBuiltins

namespace Definition

/-- The description of a definition, as JSON. -/
def toJson (d : Definition) : Json := .object [
  ("name", .string d.name),
  ("signature", .string (String.ofList d.describe)),
  ("arguments", .array (d.positions.map fun s => .string (String.ofList s.text))),
  ("variadic", match d.variadic with
    | some s => .string (String.ofList s.text)
    | none => .null),
  ("min_args", match d.minimum with
    | some n => .number (.int n)
    | none => .null),
  ("needs_context", .boolean d.body.needsContext)]

end Definition

/-- The definitions of the catalog, by name. -/
def Builtin.definitions (clock : Moment) : List Definition :=
  (Builtin.all.mergeSort fun a b => decide (a.name ≤ b.name)).map (Builtin.definition clock)

namespace CommandLine

/-- A record of an error in the log. -/
structure ErrorRecord where
  logger : String
  message : String
  deriving DecidableEq

/-- A record as it is written, at a time. -/
def ErrorRecord.line (time : String) (r : ErrorRecord) : String :=
  time ++ " - " ++ r.logger ++ " - ERROR - " ++ r.message ++ "\n"

structure Answer where
  exit : Nat
  stdout : String
  /-- What is recorded in the log. -/
  records : List ErrorRecord
  /-- What is written to the error output besides the log. -/
  stderr : String
  deriving DecidableEq

namespace Answer

def success (text : String) : Answer := ⟨0, text, [], ""⟩

/-- What could not be done, behind the word for it. -/
def failure (message : String) : Answer := ⟨1, "", [], "Error: " ++ message ++ "\n"⟩

/-- An answer that is also recorded in the log of the program. -/
def recorded (a : Answer) (message : String) : Answer := { a with records := [⟨"jte.console_script", message⟩] }

/-- An answer at a level of logging: only the highest one leaves errors out. -/
def atLevel (level : String) (a : Answer) : Answer :=
  if level = "CRITICAL" then { a with records := [] } else a

/-- The whole error output, with a time in front of each record. -/
def errorOutput (time : String) (a : Answer) : String :=
  String.join (a.records.map (ErrorRecord.line time)) ++ a.stderr

end Answer

/-- What is wrong with a context that is given as text. -/
inductive ContextFault where
  | notJson (fault : String)
  | notObject
  /-- It holds an integer of too many digits. -/
  | unread (f : Failure)

/-- The value of an argument: what it denotes as JSON, or the text itself. -/
def argument (text : String) : Except Failure Value :=
  match Json.read text.toList with
  | .ok j => .ok (.ofJson j)
  | .error (.fault _) => .ok (.string text)
  | .error (.tooLong digits) => .error (.tooLong (some digits))

/-- The bindings of a context that is given as text; an empty text gives none. -/
def contextOf (text : Option String) : Except ContextFault (Table Key Value) :=
  match text with
  | none => .ok .empty
  | some text =>
    if text.isEmpty then .ok .empty
    else
      match Json.read text.toList with
      | .ok (.object members) => .ok (.ofEntries (valuesOfMembers members))
      | .ok _ => .error .notObject
      | .error (.fault f) => .error (.notJson (String.ofList (f.message text.toList)))
      | .error (.tooLong digits) => .error (.unread (.tooLong (some digits)))

/-- A context with the time that was given, unless that is empty. -/
def withNow (context : Table Key Value) (now : Option String) : Table Key Value :=
  match now with
  | some text => if text.isEmpty then context else context.set (.text "now") (.string text)
  | none => context

/-- The value of a call under a context, as JSON. -/
def evaluate (clock : Moment) (context : Table Key Value) (c : CallRequest) : Except Failure Json := do
  let args ← c.arguments.mapM argument
  let b ← Builtin.find c.name
  let v ← b.call clock (.ofFields (Value.ofFields context).merged) args
  v.json

def answerCall (clock : Moment) (c : CallRequest) : Except Failure Answer :=
  match contextOf c.context with
  | .error (.notJson fault) =>
    .ok ((Answer.failure ("--context is not valid JSON. " ++ fault)).recorded
      ("Invalid JSON for --context: " ++ fault))
  | .error .notObject => .ok (.failure "--context must be a JSON object.")
  | .error (.unread f) => .error f
  | .ok context =>
    match evaluate clock (withNow context c.now) c with
    | .ok j => .ok (.success (String.ofList (j.write .spaced) ++ "\n"))
    | .error f =>
      if f.report.family.isInvocation then .ok (.failure (String.ofList f.report.message)) else .error f

/-- A function by its description, with a mark if it takes the context. -/
def listLine (d : Definition) : String :=
  String.ofList d.describe ++ (if d.body.needsContext then " [context]" else "")

def answerList (clock : Moment) (json : Bool) : Answer :=
  if json then
    .success (String.ofList ((Json.array ((Builtin.definitions clock).map Definition.toJson)).writeIndented 0) ++
      "\n")
  else .success (lines ((Builtin.definitions clock).map listLine))

/-- What a level of logging without a value fails with: there is no text in it to set in capitals. -/
def noLevel : Failure := .own "AttributeError" "'list' object has no attribute 'upper'"

def answerHalt : Halt → Except Failure Answer
  | .help t => .ok (.success t.help)
  | .version => .ok (.success (programName ++ " " ++ version ++ "\n"))
  | .misuse t m => .ok ⟨2, "", [], t.usage ++ t.title ++ ": error: " ++ m.message ++ "\n"⟩
  | .noLevel => .error noLevel

/-- The answer to a command line, at a clock that shows `clock`. -/
def answer (clock : Moment) (argv : List String) : Except Failure Answer :=
  match request argv with
  | .ok (.list json, _) => .ok (answerList clock json)
  | .ok (.call c, level) => (answerCall clock c).map (Answer.atLevel level)
  | .error h => answerHalt h

end CommandLine

end TemplateBuiltins
