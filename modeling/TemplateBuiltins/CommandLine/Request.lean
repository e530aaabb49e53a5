/-
# CommandLine.Request -- what a command line asks for

A command line asks for the list of functions, for one call, for help or for the
version, or it is misused.  Its words are taken in order, so that the first request
for help or the first misuse decides; only what is missing and what is left over
is found at the end, and after that a level of logging that was left without a
value.  The words of a call are a name and its arguments in one
group: a second group, and every word that a command does not know, is left over.
-/
import TemplateBuiltins.CommandLine.Usage
import TemplateBuiltins.CommandLine.Words

set_option autoImplicit false

namespace TemplateBuiltins.CommandLine

/-- What options of the program and its commands mean. -/
inductive Meaning where
  | help
  | version
  | logLevel
  | json
  | context
  | now
  deriving DecidableEq

def helpChoice : Choice Meaning := ⟨["-h", "--help"], .help, false⟩

def Topic.choices : Topic → List (Choice Meaning)
  | .program => [helpChoice, ⟨["-v", "--version"], .version, false⟩, ⟨["--log-level"], .logLevel, true⟩]
  | .list => [helpChoice, ⟨["--json"], .json, false⟩]
  | .call => [helpChoice, ⟨["--context"], .context, true⟩, ⟨["--now"], .now, true⟩]

def logLevels : List String := ["DEBUG", "INFO", "WARNING", "ERROR", "CRITICAL"]

/-- The level of logging where none is given. -/
def defaultLevel : String := "WARNING"

def commandNames : List String := ["list", "call"]

/-- The words of a call: the name of a function, its arguments, and the values of the options. -/
structure CallRequest where
  name : String
  arguments : List String
  context : Option String
  now : Option String
  deriving DecidableEq

inductive Request where
  | list (json : Bool)
  | call (c : CallRequest)
  deriving DecidableEq

/-- Why a command line is no request. -/
inductive Halt where
  | help (t : Topic)
  | version
  | misuse (t : Topic) (m : Misuse)
  /-- The level of logging is without a value. -/
  | noLevel
  deriving DecidableEq

/-! ## Calls -/

/-- The name and the arguments in a group: separators that serve as such are left out. -/
def nameAndArguments? : List (Word Meaning) → Option (String × List String)
  | .separator :: name :: rest => some (name.text, (rest.map Word.text).erase "--")
  | [.separator] => none
  | name :: .separator :: rest => some (name.text, (rest.map Word.text).erase "--")
  | name :: rest => some (name.text, (rest.map Word.text).erase "--")
  | [] => none

/-- What is known of a call, and which words are left over. -/
structure CallState where
  positionals : Option (String × List String)
  context : Option String
  now : Option String
  extras : List String

def CallState.initial : CallState := ⟨none, none, none, []⟩

def callEvent (st : CallState) : Event Meaning → Except Halt CallState
  | .flag _ => .error (.help .call)
  | .value .context text => .ok { st with context := text }
  | .value _ text => .ok { st with now := text }
  | .group ws =>
    match st.positionals, nameAndArguments? ws with
    | none, some p => .ok { st with positionals := some p }
    | _, _ => .ok { st with extras := st.extras ++ ws.map Word.text }
  | .extra text => .ok { st with extras := st.extras ++ [text] }
  | .misuse m => .error (.misuse .call m)

/-- A call, and the words left over. -/
def callRequest (words : List String) : Except Halt (Request × List String) :=
  match wordsOf Topic.call.choices words with
  | .error m => .error (.misuse .call m)
  | .ok ws => do
    let st ← (events Topic.call.choices false ws).foldlM callEvent .initial
    match st.positionals with
    | some (name, arguments) => .ok (.call ⟨name, arguments, st.context, st.now⟩, st.extras)
    | none => .error (.misuse .call (.required ["name", "ARG"]))

/-! ## Lists -/

structure ListState where
  json : Bool
  extras : List String

def listEvent (st : ListState) : Event Meaning → Except Halt ListState
  | .flag .json => .ok { st with json := true }
  | .flag _ => .error (.help .list)
  | .value _ text => .ok { st with extras := st.extras ++ text.toList }
  | .group ws => .ok { st with extras := st.extras ++ ws.map Word.text }
  | .extra text => .ok { st with extras := st.extras ++ [text] }
  | .misuse m => .error (.misuse .list m)

def listRequest (words : List String) : Except Halt (Request × List String) :=
  match wordsOf Topic.list.choices words with
  | .error m => .error (.misuse .list m)
  | .ok ws => do
    let st ← (events Topic.list.choices false ws).foldlM listEvent ⟨false, []⟩
    .ok (.list st.json, st.extras)

/-! ## The whole line -/

/-- The request of a command, by its words. -/
def commandRequest : List String → Except Halt (Request × List String)
  | "list" :: words => listRequest words
  | "call" :: words => callRequest words
  | words =>
    .error (.misuse .program (.invalidChoice "command" (words.headD "") commandNames))

structure ProgramState where
  request : Option Request
  /-- The level of logging, unless it is without a value. -/
  level : Option String
  /-- Words that the program left over. -/
  extras : List String
  /-- Words that its command left over. -/
  commandExtras : List String

def programEvent (st : ProgramState) : Event Meaning → Except Halt ProgramState
  | .flag .version => .error .version
  | .flag _ => .error (.help .program)
  | .value _ none => .ok { st with level := none }
  | .value _ (some text) =>
    if logLevels.contains text then .ok { st with level := some text }
    else .error (.misuse .program (.invalidChoice "--log-level" text logLevels))
  | .group [.separator] => .ok { st with extras := st.extras ++ ["--"] }
  | .group ws => do
    let (request, extras) ← commandRequest (ws.map Word.text)
    .ok { st with request := some request, commandExtras := extras }
  | .extra text => .ok { st with extras := st.extras ++ [text] }
  | .misuse m => .error (.misuse .program m)

/-- What a command line asks for, and at which level of logging. -/
def request (argv : List String) : Except Halt (Request × String) :=
  match wordsOf Topic.program.choices argv with
  | .error m => .error (.misuse .program m)
  | .ok ws => do
    let st ← (events Topic.program.choices true ws).foldlM programEvent ⟨none, some defaultLevel, [], []⟩
    match st.request, st.extras ++ st.commandExtras with
    | none, _ => .error (.misuse .program (.required ["command"]))
    | some r, [] =>
      match st.level with
      | some level => .ok (r, level)
      | none => .error .noLevel
    | some _, extras => .error (.misuse .program (.unrecognized extras))

end TemplateBuiltins.CommandLine
