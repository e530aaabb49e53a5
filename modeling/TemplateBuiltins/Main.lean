/-
# Main -- the program

Writes the answer to its command line to the two outputs and ends with its exit
code; where there is no answer it writes what failed and ends with exit code 1.  The
clock is read once, and its reading stands in front of what the log records.
-/
import TemplateBuiltins.CommandLine.Run

set_option autoImplicit false

namespace TemplateBuiltins.CommandLine

/-- Runs the program on the words of a command line; `readClock` tells the moment in universal time. -/
def run (readClock : IO Moment) (argv : List String) : IO UInt32 := do
  let clock ← readClock
  match answer clock argv with
  | .ok answer =>
    (← IO.getStdout).putStr answer.stdout
    (← IO.getStderr).putStr (answer.errorOutput (String.ofList (Timestamp.write clock)))
    return answer.exit.toUInt32
  | .error failure =>
    (← IO.getStderr).putStr (String.ofList failure.report.message ++ "\n")
    return 1

end TemplateBuiltins.CommandLine
