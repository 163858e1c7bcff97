import SubmissionRouting.CommandLine.Arguments
import SubmissionRouting.CommandLine.Request
import SubmissionRouting.CommandLine.Run
import SubmissionRouting.CommandLine.Transcript
import SubmissionRouting.Condition.Basic
import SubmissionRouting.Condition.Codec
import SubmissionRouting.Condition.Evaluation
import SubmissionRouting.Condition.Operator
import SubmissionRouting.Decision
import SubmissionRouting.Example
import SubmissionRouting.Fault
import SubmissionRouting.Files
import SubmissionRouting.Form.Codec
import SubmissionRouting.Form.Field
import SubmissionRouting.Form.Route
import SubmissionRouting.Form.Table
import SubmissionRouting.Form.Text
import SubmissionRouting.Forwarding
import SubmissionRouting.Host
import SubmissionRouting.Journal
import SubmissionRouting.Json.KeyOrder
import SubmissionRouting.Json.Reader
import SubmissionRouting.Json.Token
import SubmissionRouting.Json.Writer
import SubmissionRouting.Main
import SubmissionRouting.Number.Binary64
import SubmissionRouting.Number.Reading
import SubmissionRouting.Number.Shortest
import SubmissionRouting.Proofs.Failure
import SubmissionRouting.Proofs.Condition.Outcome
import SubmissionRouting.Proofs.Condition.Pruning
import SubmissionRouting.Proofs.Routing.Agreement
import SubmissionRouting.Proofs.Routing.Availability
import SubmissionRouting.Proofs.Routing.Inlining
import SubmissionRouting.Proofs.Routing.ReferenceCheck
import SubmissionRouting.Report
import SubmissionRouting.Response
import SubmissionRouting.Roster
import SubmissionRouting.Routing.Chain
import SubmissionRouting.Routing.References
import SubmissionRouting.Routing.Selection
import SubmissionRouting.Routing.Submission
import SubmissionRouting.Settings
import SubmissionRouting.Store
import SubmissionRouting.Text.Blank
import SubmissionRouting.Text.CaseFold
import SubmissionRouting.Text.Digit
import SubmissionRouting.Text.Hexadecimal
import SubmissionRouting.Text.Percent
import SubmissionRouting.Text.Printable
import SubmissionRouting.Text.Quoted
import SubmissionRouting.Value.Basic
import SubmissionRouting.Value.Calendar
import SubmissionRouting.Value.Equality
import SubmissionRouting.Value.Items
import SubmissionRouting.Value.Literal
import SubmissionRouting.Value.Mapping
import SubmissionRouting.Yaml.Collection
import SubmissionRouting.Yaml.Cursor
import SubmissionRouting.Yaml.Knot
import SubmissionRouting.Yaml.Merge
import SubmissionRouting.Yaml.Node
import SubmissionRouting.Yaml.Plain
import SubmissionRouting.Yaml.Reader
import SubmissionRouting.Yaml.Scalar
import SubmissionRouting.Yaml.Scalars
import SubmissionRouting.Yaml.Token
import SubmissionRouting.Yaml.Writer
import SubmissionRouting.Proofs.Table.Reordering
import SubmissionRouting.Proofs.Routing.Depth
import SubmissionRouting.Proofs.Number.Magnitude
import SubmissionRouting.Proofs.Number.Rounding
import SubmissionRouting.Proofs.Value.Keys
import SubmissionRouting.Proofs.Submission.Draft
import SubmissionRouting.Proofs.Submission.HostFilter
import SubmissionRouting.Proofs.Response.Answers
import SubmissionRouting.Proofs.Routing.Stops
import SubmissionRouting.Proofs.Submission.Entry
import SubmissionRouting.Proofs.Condition.Mentioned
import SubmissionRouting.Proofs.Submission.Catalogs
import SubmissionRouting.Proofs.Submission.Faults
import SubmissionRouting.Proofs.Submission.Noninterference
import SubmissionRouting.Proofs.Json.Arranged
import SubmissionRouting.Proofs.Form.Values
import SubmissionRouting.Proofs.Json.Canonical
import SubmissionRouting.Proofs.Form.Normal
import SubmissionRouting.Proofs.Form.RoundTrip
import SubmissionRouting.Proofs.Value.Parts
import SubmissionRouting.Proofs.Condition.Reading
import SubmissionRouting.Proofs.Response.Verdicts
import SubmissionRouting.Proofs.Value.Written
import SubmissionRouting.Proofs.Condition.Operators
import SubmissionRouting.Proofs.Condition.Decoded
import SubmissionRouting.Proofs.Form.Malformed
import SubmissionRouting.Proofs.Routing.Selection
import SubmissionRouting.Proofs.Report.Findings
import SubmissionRouting.Proofs.Report.Unreachable
import SubmissionRouting.Proofs.Table.Repair
import SubmissionRouting.Proofs.Table.FallbackPlaces
import SubmissionRouting.Proofs.Routing.Order
import SubmissionRouting.Proofs.Value.Filling
import SubmissionRouting.Proofs.Forwarding.Hosts
import SubmissionRouting.Proofs.Forwarding.Parameters
import SubmissionRouting.Proofs.Forwarding.Places
import SubmissionRouting.Proofs.Number.Numerals
import SubmissionRouting.Proofs.Number.Integers
import SubmissionRouting.Proofs.Value.Shown
import SubmissionRouting.Proofs.Forwarding.QueryString
import SubmissionRouting.Proofs.Condition.Numeric
import SubmissionRouting.Proofs.Response.Normalized
import SubmissionRouting.Proofs.Response.Integers
import SubmissionRouting.Proofs.Response.Typed
import SubmissionRouting.Proofs.Response.Answered
import SubmissionRouting.Proofs.Condition.Comparisons
import SubmissionRouting.Proofs.Condition.Laws
import SubmissionRouting.Proofs.Condition.Traversal
import SubmissionRouting.Proofs.Condition.Coherence
import SubmissionRouting.Proofs.Forwarding.Labels
import SubmissionRouting.Proofs.Routing.Fetching
import SubmissionRouting.Proofs.Submission.Rosters
import SubmissionRouting.Proofs.Condition.Grammar
import SubmissionRouting.Proofs.Form.FieldIds
import SubmissionRouting.Proofs.Report.StaleRules
