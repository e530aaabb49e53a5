import TemplateBuiltins.Main
import TemplateBuiltins.Proofs.Calendar.Count
import TemplateBuiltins.Proofs.Calendar.Shift
import TemplateBuiltins.Proofs.Calendar.Writing
import TemplateBuiltins.Proofs.Calls.Outcome
import TemplateBuiltins.Proofs.Number.Exact
import TemplateBuiltins.Proofs.Number.Nearest
import TemplateBuiltins.Proofs.Number.Numeral
import TemplateBuiltins.Proofs.Number.RoundTrip
import TemplateBuiltins.Proofs.Number.Shortest
import TemplateBuiltins.Proofs.Offset.Reading
import TemplateBuiltins.Proofs.Offset.Spelling
import TemplateBuiltins.Proofs.Text.Digits
import TemplateBuiltins.Proofs.Text.Runs
import TemplateBuiltins.Session
import TemplateBuiltins.Proofs.Calls.Acceptance
import TemplateBuiltins.Proofs.Catalog.Results
import TemplateBuiltins.Proofs.Text.Pieces
import TemplateBuiltins.Proofs.Catalog.SplitJoin
import TemplateBuiltins.Proofs.Catalog.Failures
import TemplateBuiltins.Proofs.Json.Values
import TemplateBuiltins.Proofs.CommandLine.Requests
import TemplateBuiltins.Proofs.Json.Strings
import TemplateBuiltins.Proofs.Json.Numbers
import TemplateBuiltins.Proofs.Json.Admitted
import TemplateBuiltins.Proofs.Json.RoundTrip
import TemplateBuiltins.Proofs.CommandLine.Calls
import TemplateBuiltins.Proofs.CommandLine.ReadBack
import TemplateBuiltins.Proofs.Calendar.Reading
import TemplateBuiltins.Proofs.Calendar.RoundTrip
import TemplateBuiltins.Proofs.Calendar.Addition
import TemplateBuiltins.Proofs.Signature.Alternatives
import TemplateBuiltins.Proofs.Value.Kinds
import TemplateBuiltins.Proofs.Context.Merge
import TemplateBuiltins.Proofs.Context.Visibility
import TemplateBuiltins.Proofs.Signature.Reading
import TemplateBuiltins.Proofs.Lists.Related
import TemplateBuiltins.Proofs.Calls.Installation
import TemplateBuiltins.Proofs.Number.Decimal
import TemplateBuiltins.Proofs.Number.Reading
import TemplateBuiltins.Proofs.Suggestion.Similarity
import TemplateBuiltins.Proofs.Suggestion.Ranking
import TemplateBuiltins.Proofs.Catalog.Flattening
import TemplateBuiltins.Proofs.Number.Equality
import TemplateBuiltins.Proofs.Catalog.EqualNumbers
import TemplateBuiltins.Proofs.Number.Interval
import TemplateBuiltins.Proofs.Number.Fewest
import TemplateBuiltins.Proofs.Number.Threshold
import TemplateBuiltins.Proofs.Number.Layout
import TemplateBuiltins.Proofs.Number.Notation
import TemplateBuiltins.Proofs.Number.Order
import TemplateBuiltins.Proofs.Catalog.Extrema
import TemplateBuiltins.Proofs.Catalog.Rounding
import TemplateBuiltins.Proofs.Calendar.Order
import TemplateBuiltins.Proofs.Calls.Refusals
import TemplateBuiltins.Proofs.Offset.Duration
import TemplateBuiltins.Proofs.Session
