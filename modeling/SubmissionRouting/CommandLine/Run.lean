import SubmissionRouting.CommandLine.Request
import SubmissionRouting.CommandLine.Transcript
import SubmissionRouting.Files
import SubmissionRouting.Routing.Submission

/-! # Runs

A request is carried out on files. Routing ends with 0, with 2 if something could not be read or
routed, and with 3 if no host remains; checking ends with 0 or, if there are warnings, with 1.

* `RouteTask.submission`: the submission in the files of a task.
* `RouteTask.run`, `runCheck`: what a task shows.
* `Request.run`: what a request shows. -/

namespace SubmissionRouting.CommandLine

/-! ### Reading files -/

/-- The files of a task. Each is read as a source of its own. -/
inductive FileRole where
  | form
  | response
  | forms
  | hosts
  | settings

/-- The number of the source that a file is read as. -/
def FileRole.source : FileRole → Nat
  | form => 1
  | response => 2
  | forms => 3
  | hosts => 4
  | settings => 5

/-- The value in the file that fills a place. -/
def readGiven (files : Files) (role : FileRole) : Given → Result Value
  | some name => files.read role.source name
  | none => .error (.misuse .notText)

/-- The parameter in a text of the form `name=value`. -/
def parameter : Given → Result (Value × Value)
  | none => .error (.misuse .notAMapping)
  | some s =>
    match splitAtEquals s with
    | (name, some v) => .ok (.text name, .text v)
    | (_, none) => .error (.payload (.parameterWithoutValue s))

/-- The forms in a list. -/
def formsOfPayload? (v : Value) : Result (List Form) := (v.orElse (.list [])).eachItem Form.ofPayload?

/-- The entries of a roster; nothing at all has none. -/
def rosterEntries (v : Value) : Result (Mapping Value) :=
  match (v.orElse (.map [])).opened with
  | .map es => .ok es
  | _ => .error (.misuse .notAMapping)

/-- The hosts in a roster, and their attributes if the roster tells them. -/
def teamOfPayload? (v : Value) : Result (List Host × Option (List Attribute)) := do
  let es ← rosterEntries v
  let hosts ← (Value.memberD es "hosts" (.list [])).eachItem Host.ofPayload?
  match Value.member? es "attributes" with
  | none => pure (hosts, none)
  | some w =>
    let attributes ← (w.orElse (.list [])).eachItem Attribute.ofPayload?
    pure (hosts, some attributes)

/-- The settings in a file; without one, or if there is no such file, the defaults. -/
def readSettings (files : Files) : Option Given → Result Settings
  | none => pure {}
  | some none => .error (.misuse .notText)
  | some (some name) => do Settings.ofPayload? (← files.readIfThere FileRole.settings.source name)

namespace RouteTask

/-- The tables that references can lead to: those of the forms in a file, and the form's own unless
one of them has its id. -/
def tables (t : RouteTask) (files : Files) (f : Form) : Result (Option Tables) :=
  match t.forms with
  | none => pure none
  | some name => do
    let others ← formsOfPayload? (← files.read FileRole.forms.source name)
    pure (some (Tables.ofForms (f :: others)))

/-- The hosts to be filtered, and their attributes. -/
def team (t : RouteTask) (files : Files) : Result (Option (List Host) × Option (List Attribute)) :=
  match t.hosts with
  | none => pure (none, none)
  | some name => do
    let (hosts, attributes) ← teamOfPayload? (← files.read FileRole.hosts.source name)
    pure (some hosts, attributes)

/-- The submission in the files of a task. -/
def submission (t : RouteTask) (files : Files) (freshId : String) : Result Submission := do
  let form ← Form.ofPayload? (← readGiven files .form t.form)
  let response ← readGiven files .response t.response
  let tables ← t.tables files form
  let (hosts, attributes) ← t.team files
  let address ← t.parameters.mapM parameter
  let settings ← readSettings files t.settings
  pure ⟨form, RawResponse.ofValue response, tables, hosts, attributes, address, settings, freshId⟩

/-- The decision on the submission. -/
def decision (t : RouteTask) (files : Files) (freshId : String) : Journaled Decision := do
  let s ← (t.submission files freshId : Journaled Submission)
  s.decide

end RouteTask

/-! ### Printing -/

/-- A decision is printed with a code. -/
def printDecision (d : Decision) (code : Nat) : Transcript :=
  match d.toPayload >>= Json.write Json.pretty with
  | .ok text => .printed (text ++ "\n") code
  | .error cause => .broken (.misuse cause)

/-- The transcript of a fault. Faults of payloads and of routing are expected; where no host
remains, the decision is printed too. -/
def ofFault : Fault → Transcript
  | .payload cause => .failed cause.message 2
  | .routing (.noEligibleHost d) =>
    (printDecision d 3).after ["error: " ++ (RoutingFault.noEligibleHost d).message]
  | .routing cause => .failed cause.message 2
  | cause => .broken cause

/-- The messages of the records that a request shows. -/
def Request.messages (r : Request) (time : String) (records : List Record) : List String :=
  (records.filter (Record.isShown r.isVerbose)).filterMap (Record.line? r.inJson time)

/-- The transcript of a decision. -/
def Request.ofDecision (r : Request) (time : String) (x : Journaled Decision) : Transcript :=
  Transcript.after (r.messages time x.records)
    (match x.outcome with
      | .ok d => printDecision d 0
      | .error cause => ofFault cause)

/-- The report on the form in a file. -/
def reportOn (files : Files) (form : Given) : Result Report := do
  let f ← Form.ofPayload? (← readGiven files .form form)
  orFault f.report

/-- The transcript of a report. -/
def ofReport : Result Report → Transcript
  | .ok report => .printed report.text (if report.warnings.isEmpty then 0 else 1)
  | .error cause => ofFault cause

/-- What a request shows. A fallback that has to be created gets the fresh id. -/
def Request.run (r : Request) (files : Files) (freshId time : String) : Transcript :=
  match r.task with
  | .route t => r.ofDecision time (t.decision files freshId)
  | .check form => ofReport (reportOn files form)

end SubmissionRouting.CommandLine
