/-
# CommandLine.Words -- the words of a command line

A command knows some options by their names.  A word names an option exactly, by
the beginning of its long name if no other option begins so, with a value behind
an equals sign, or, for a name of one letter, with more behind the letter.  What is
attached to a flag of one letter, also behind an equals sign, is read as the letters
of more flags.  A word that begins with a minus and names no option is unknown,
unless it is a negative number or has a space in it: then it is plain, as are words
without a minus.  The word `--` is a separator, and all words behind it are plain; a
separator that is attached as a value leaves the option without one.

The words of a line come to a list of events (`events`): an option takes the plain
word behind it if it needs a value, and neighbouring plain words form a group.
Where the first plain word takes over the line, its group holds all that follow.
-/
import TemplateBuiltins.Text.Digit
import TemplateBuiltins.Text.Quoted

set_option autoImplicit false

namespace TemplateBuiltins.CommandLine

variable {α : Type}

/-- An option: its names, what it means, and whether it needs a value. -/
structure Choice (α : Type) where
  names : List String
  meaning : α
  takesValue : Bool

/-- The names of an option as messages show them. -/
def Choice.title (c : Choice α) : String := "/".intercalate c.names

/-- What a word names: an option, by one of its names, with a text attached or not. -/
structure Naming (α : Type) where
  choice : Choice α
  name : List Char
  attached : Option (List Char)

inductive Word (α : Type) where
  | plain (text : String)
  | separator
  | option (text : String) (naming : Naming α)
  | unknown (text : String)

namespace Word

def text : Word α → String
  | .plain text | .option text _ | .unknown text => text
  | .separator => "--"

end Word

/-- All names of some options, with their options, in order. -/
def namesOf (choices : List (Choice α)) : List (List Char × Choice α) :=
  choices.flatMap fun c => c.names.map fun name => (name.toList, c)

def named? (choices : List (Choice α)) (name : List Char) : Option (Choice α) :=
  ((namesOf choices).find? fun n => n.1 == name).map (·.2)

/-- A text before its first equals sign, and behind it if there is one. -/
def splitEquals (s : List Char) : List Char × Option (List Char) :=
  (s.takeWhile (· ≠ '='), match s.dropWhile (· ≠ '=') with
    | _ :: behind => some behind
    | [] => none)

/-- The options that the beginning of a name may mean. -/
def abbreviated (choices : List (Choice α)) (s : List Char) : List (Naming α) :=
  match s with
  | '-' :: '-' :: _ =>
    let (start, value) := splitEquals s
    ((namesOf choices).filter fun n => start.isPrefixOf n.1).map fun n => ⟨n.2, n.1, value⟩
  | '-' :: letter :: behind =>
    ((namesOf choices).filter fun n => n.1 == ['-', letter]).map fun n => ⟨n.2, n.1, some behind⟩
  | _ => []

def allDigits (s : List Char) : Bool := !s.isEmpty && s.all Text.isDigit

/-- A text without the line break at its end, if it has one. -/
def withoutBreak (s : List Char) : List Char :=
  match s.reverse with
  | '\n' :: rest => rest.reverse
  | _ => s

/-- Whether a text is a minus and digits, with or without a point before the last of them. -/
def isNegativeNumber : List Char → Bool
  | '-' :: s =>
    let s := withoutBreak s
    allDigits s ||
      match s.dropWhile Text.isDigit with
      | '.' :: fraction => allDigits fraction
      | _ => false
  | _ => false

/-- What is wrong with a command line. -/
inductive Misuse where
  | ambiguous (word : String) (names : List String)
  | needsValue (title : String)
  | takesNoValue (title : String) (value : List Char)
  | invalidChoice (title : String) (value : String) (allowed : List String)
  | required (titles : List String)
  | unrecognized (words : List String)
  deriving DecidableEq

namespace Misuse

def quote (s : String) : String := String.ofList (Text.quoted s.toList)

def message : Misuse → String
  | .ambiguous word names =>
    let list := ", ".intercalate names
    s!"ambiguous option: {word} could match {list}"
  | .needsValue title => s!"argument {title}: expected one argument"
  | .takesNoValue title value =>
    let shown := String.ofList (Text.quoted value)
    s!"argument {title}: ignored explicit argument {shown}"
  | .invalidChoice title value allowed =>
    let shown := quote value
    let list := ", ".intercalate (allowed.map quote)
    s!"argument {title}: invalid choice: {shown} (choose from {list})"
  | .required titles =>
    let list := ", ".intercalate titles
    s!"the following arguments are required: {list}"
  | .unrecognized words =>
    let list := " ".intercalate words
    s!"unrecognized arguments: {list}"

end Misuse

/-- What a word that begins with a minus is, among options. -/
def classifyDashed (choices : List (Choice α)) (word : String) : Except Misuse (Word α) :=
  let s := word.toList
  let (before, value) := splitEquals s
  match named? choices s, value, named? choices before with
  | some c, _, _ => .ok (.option word ⟨c, s, none⟩)
  | none, some v, some c => .ok (.option word ⟨c, before, some v⟩)
  | none, _, _ =>
    match abbreviated choices s with
    | [naming] => .ok (.option word naming)
    | [] => .ok (if isNegativeNumber s || s.contains ' ' then .plain word else .unknown word)
    | several => .error (.ambiguous word (several.map fun n => String.ofList n.name))

/-- What a word is, among options. -/
def classify (choices : List (Choice α)) (word : String) : Except Misuse (Word α) :=
  match word.toList with
  | '-' :: _ :: _ => classifyDashed choices word
  | _ => .ok (.plain word)

/-- The words of a line; behind the separator all are plain. -/
def wordsOf (choices : List (Choice α)) : List String → Except Misuse (List (Word α))
  | [] => .ok []
  | word :: rest =>
    if word = "--" then .ok (.separator :: rest.map .plain)
    else do
      let w ← classify choices word
      let ws ← wordsOf choices rest
      .ok (w :: ws)

/-- What happens along a line. -/
inductive Event (α : Type) where
  | flag (meaning : α)
  /-- An option that needs a value, with it, or without it if a separator stands in its place. -/
  | value (meaning : α) (text : Option String)
  | group (words : List (Word α))
  | extra (text : String)
  | misuse (m : Misuse)

/-- A flag, and those whose letters stand behind it in one word; options of one letter are flags. -/
def cluster (choices : List (Choice α)) (flag : Choice α) :
    List Char → Except Misuse (List (Event α))
  | [] => .ok [.flag flag.meaning]
  | letter :: behind =>
    match named? choices ['-', letter] with
    | some next => (cluster choices next behind).map (.flag flag.meaning :: ·)
    | none => .error (.takesNoValue flag.title (letter :: behind))

/-- The value that is attached to an option, unless it is a separator. -/
def attachedValue? (text : List Char) : Option String :=
  if text = ['-', '-'] then none else some (String.ofList text)

/-- The events of an option with a text attached. -/
def attachedEvents (choices : List (Choice α)) (n : Naming α) (text : List Char) : List (Event α) :=
  if n.choice.takesValue then [.value n.choice.meaning (attachedValue? text)]
  else if n.name.length = 2 ∧ text ≠ [] then
    match cluster choices n.choice text with
    | .ok events => events
    | .error m => [.misuse m]
  else [.misuse (.takesNoValue n.choice.title text)]

/-- Puts a plain word into the group behind it, if there is one. -/
def joinGroup (w : Word α) : List (Event α) → List (Event α)
  | .group ws :: events => .group (w :: ws) :: events
  | events => .group [w] :: events

/-- The events of a line; with `greedy` the first plain word takes all words behind it. -/
def events (choices : List (Choice α)) (greedy : Bool) : List (Word α) → List (Event α)
  | [] => []
  | .unknown text :: rest => .extra text :: events choices greedy rest
  | .plain text :: rest =>
    if greedy then [.group (.plain text :: rest)] else joinGroup (.plain text) (events choices greedy rest)
  | .separator :: rest =>
    if greedy then [.group (.separator :: rest)] else joinGroup .separator (events choices greedy rest)
  | .option _ n :: rest =>
    match n.attached with
    | some text => attachedEvents choices n text ++ events choices greedy rest
    | none =>
      if n.choice.takesValue then
        match rest with
        | .plain text :: rest => .value n.choice.meaning (some text) :: events choices greedy rest
        | _ => [.misuse (.needsValue n.choice.title)]
      else .flag n.choice.meaning :: events choices greedy rest

end TemplateBuiltins.CommandLine
