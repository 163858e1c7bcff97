import SubmissionRouting.Form.Codec
import SubmissionRouting.Journal
import SubmissionRouting.Json.Writer
import SubmissionRouting.Report

/-! # Transcripts

What a run of the program shows. Decisions and reports are printed as output; records of the journal
and faults are messages, which are kept apart from it.

* `Decision.toPayload`: a decision as it is printed.
* `Report.text`: a report as it is printed.
* `Record.line?`: a record as a message.
* `Transcript`: all that a run shows, and how it ends. -/

namespace SubmissionRouting

/-! ### Output -/

/-- Values in the order of their texts. -/
def sortedByText (vs : List Value) : Except Misuse (List Value) := do
  let texts ← vs.mapM fun v => do pure (← v.shown, v)
  pure ((texts.mergeSort fun a b => a.1 ≤ b.1).map (·.2))

/-- The hosts that remain, in the order of their texts; nothing if hosts were not filtered. -/
def Decision.hostList (d : Decision) : Except Misuse Value :=
  match d.matchedHosts with
  | none => .ok .null
  | some ids => Value.list <$> sortedByText ids

/-- The payload of a decision. -/
def Decision.toPayload (d : Decision) : Except Misuse Value := do
  let hosts ← d.hostList
  pure (.map [(.text "action", d.action.toPayload), (.text "route_id", .text d.routeId),
    (.text "matched_by", .text d.matchedBy.name), (.text "chain", .list (d.chain.map .text)),
    (.text "matched_host_ids", hosts),
    (.text "forward_params", .map (d.parameters.map fun p => (p.1, .list p.2)))])

/-- The counts of a report in one line. -/
def Report.heading (r : Report) : String :=
  "Form " ++ r.formId ++ ": " ++ decimalText r.totalRoutes ++ " routes (" ++
    decimalText r.ruleRoutes ++ " rule, " ++ decimalText r.routerReferences ++ " router), " ++
    decimalText r.totalRules ++ " rules, max depth " ++ decimalText r.maxDepth ++ "\n"

/-- A report in lines. -/
def Report.text (r : Report) : String :=
  r.heading ++ String.join (r.warnings.map fun w => "  warning: " ++ w ++ "\n")

/-! ### Messages -/

/-- The name of a level. -/
def Level.name : Level → String
  | debug => "debug"
  | info => "info"
  | warning => "warning"

/-- A text with blanks behind it, up to a width. -/
def padded (width : Nat) (s : String) : String :=
  s ++ String.ofList (List.replicate (width - s.length) ' ')

/-- A record in one line: time, level, message and topic. -/
def Record.plainLine (time message : String) (r : Record) : String :=
  time ++ " [" ++ padded 9 r.level.name ++ "] " ++ padded 30 message ++ " [" ++
    r.topic.logger ++ "]"

/-- A record as a payload of texts. -/
def Record.jsonLine (time message : String) (r : Record) : String :=
  let member (key text : String) := Json.quotedText key ++ ": " ++ Json.quotedText text
  "\x7b" ++ ", ".intercalate [member "event" message, member "level" r.level.name,
    member "logger" r.topic.logger, member "timestamp" time] ++ "\x7d"

/-- A record as a message; one that has no words gives none. -/
def Record.line? (inJson : Bool) (time : String) (r : Record) : Option String :=
  r.message?.map fun message =>
    if inJson then r.jsonLine time message else r.plainLine time message

/-- A record that is shown. -/
def Record.isShown (isVerbose : Bool) (r : Record) : Bool := isVerbose || r.level == .warning

/-! ### Transcripts -/

namespace CommandLine

/-- How a run ends. -/
inductive Ending where
  | code (n : Nat)
  /-- A fault that the program does not expect. -/
  | fault (cause : Fault)

/-- All that a run shows, and how it ends. -/
structure Transcript where
  output : String
  messages : List String
  ending : Ending

namespace Transcript

/-- Output and a code. -/
def printed (text : String) (code : Nat) : Transcript := ⟨text, [], .code code⟩

/-- The message of a fault and a code. -/
def failed (message : String) (code : Nat) : Transcript := ⟨"", ["error: " ++ message], .code code⟩

/-- A fault that the program does not expect. -/
def broken (cause : Fault) : Transcript := ⟨"", [], .fault cause⟩

/-- With messages before all others. -/
def after (messages : List String) (t : Transcript) : Transcript :=
  { t with messages := messages ++ t.messages }

end Transcript

end CommandLine

end SubmissionRouting
