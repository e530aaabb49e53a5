/-
# CommandLine.Usage -- what the program tells about its commands

The program has two commands.  Each of them, and the program itself, has a usage,
which opens every message about misuse, and a help text, which opens with the
usage.
-/

set_option autoImplicit false

namespace TemplateBuiltins.CommandLine

/-- The program and its version. -/
def programName : String := "jte"

def version : String := "0.1.0"

/-- Lines, each with a line break at its end. -/
def lines (texts : List String) : String := String.join (texts.map (· ++ "\n"))

/-- Whose usage is meant: the program's, or that of one of its commands. -/
inductive Topic where
  | program
  | list
  | call
  deriving DecidableEq

namespace Topic

/-- The words that lead to a topic. -/
def title : Topic → String
  | .program => programName
  | .list => programName ++ " list"
  | .call => programName ++ " call"

def usage : Topic → String
  | .program => lines [
    "usage: jte [-h] [-v] [--log-level \x7bDEBUG,INFO,WARNING,ERROR,CRITICAL\x7d]",
    "           \x7blist,call\x7d ..."]
  | .list => lines ["usage: jte list [-h] [--json]"]
  | .call => lines ["usage: jte call [-h] [--context CONTEXT] [--now NOW] name [ARG ...]"]

def details : Topic → String
  | .program => lines [
    "JTE: inspect and invoke JSON-e style template builtins.",
    "",
    "positional arguments:",
    "  \x7blist,call\x7d           Sub-command to execute",
    "    list                List the available builtins and their signatures.",
    "    call                Invoke a builtin with JSON arguments.",
    "",
    "options:",
    "  -h, --help            show this help message and exit",
    "  -v, --version         show program's version number and exit",
    "  --log-level \x7bDEBUG,INFO,WARNING,ERROR,CRITICAL\x7d",
    "                        Set the logging level."]
  | .list => lines [
    "options:",
    "  -h, --help  show this help message and exit",
    "  --json      Output the builtin descriptions as a JSON array."]
  | .call => lines [
    "positional arguments:",
    "  name               Name of the builtin, e.g. 'max'.",
    "  ARG                Arguments, each parsed as JSON. Text that is not valid",
    "                     JSON is passed as a string.",
    "",
    "options:",
    "  -h, --help         show this help message and exit",
    "  --context CONTEXT  Evaluation context as a JSON object, e.g. '\x7b\"x\": 1\x7d'.",
    "  --now NOW          Reference time for fromNow, e.g.",
    "                     2017-01-19T16:27:20.974Z. Overrides 'now' in --context."]

def help (t : Topic) : String := t.usage ++ "\n" ++ t.details

end Topic

end TemplateBuiltins.CommandLine
