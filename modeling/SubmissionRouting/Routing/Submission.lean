import SubmissionRouting.Routing.Chain
import SubmissionRouting.Roster
import SubmissionRouting.Settings

/-! # Routing a submission

A response is put into the types of the form, a route is selected for it, hosts are filtered if the
route leads to an event, and the parameters are put together.

* `Submission`: all that a decision depends on.
* `Submission.select`: the route for the response.
* `Submission.decide`: the decision.
* `Submission.decideFor`: the decision, if the form is known under any id. -/

namespace SubmissionRouting

/-- A submission to a form, with all that its routing depends on. -/
structure Submission where
  form : Form
  raw : RawResponse
  /-- The tables that references can lead to, if there are any. -/
  tables : Option Tables := none
  /-- The hosts of the team, if they are to be filtered. -/
  hosts : Option (List Host) := none
  /-- The attributes of the team; those of the hosts if they are not given. -/
  attributes : Option (List Attribute) := none
  /-- The parameters of the incoming address. -/
  address : List (Value × Value) := []
  settings : Settings := {}
  /-- The id of a fallback that has to be created. -/
  freshId : String

namespace Submission

/-- The table of the form has no fallback. -/
def lacksFallback (s : Submission) : Bool := s.form.table.fallback?.isNone

/-- The table of the form, with a fallback. -/
def table (s : Submission) : Journaled RouteTable :=
  if s.lacksFallback then do
    Journaled.write .warning .submission
      ("Form " ++ s.form.id ++ " has no fallback route, adding one")
    pure (s.form.table.withFallback s.freshId s.settings.fallbackMessage)
  else pure s.form.table

/-- The route for a response. Without stored tables no reference can be followed. -/
def selectFrom (s : Submission) (t : RouteTable) (response : Response) : Journaled Selection :=
  match s.tables with
  | some ts => resolve s.form.id t response ts (some s.form.fields)
  | none =>
    match t.references with
    | r :: _ => Journaled.fail (.routing (.formNotFound r.id))
    | [] => t.select response none

/-- The same, with a record of a fault in the routing. -/
def recorded (s : Submission) (selection : Journaled Selection) : Journaled Selection :=
  match selection.outcome with
  | .error (.routing cause) =>
    ⟨selection.records ++ [⟨.warning, .submission,
      "Routing form " ++ s.form.id ++ " failed: " ++ cause.message, none⟩], selection.outcome⟩
  | _ => selection

/-- The route for a response, recorded. -/
def select (s : Submission) (response : Response) : Journaled Selection := do
  let t ← s.table
  let selection ← s.recorded (s.selectFrom t response)
  Journaled.write .info .submission
    ("Form " ++ s.form.id ++ " routed to " ++ selection.route.id ++ " (" ++
      selection.matchedBy.name ++ ") via " ++ chainText selection.chain)
  pure selection

/-- The hosts that remain, if there are hosts and the route leads to an event. -/
def eligibleHosts (s : Submission) (r : RuleRoute) : Journaled (Option (List Value)) :=
  match s.hosts with
  | none => pure none
  | some hosts =>
    if r.action.targetsEvent then some <$> filterHosts r.attributesQuery hosts s.attributes
    else pure none

/-- The decision on a submission. -/
def decide (s : Submission) : Journaled Decision := do
  let response ← normalizeResponse s.form.fields s.raw
  let selection ← s.select response
  let hosts ← s.eligibleHosts selection.route
  let parameters ← forwardParameters response s.form.fields s.address hosts s.settings.hostsParam
    s.settings.controlParams
  let decision : Decision :=
    ⟨selection.route.action, selection.route.id, selection.matchedBy, selection.chain, hosts,
      parameters⟩
  if !decision.hasEligibleHosts && s.settings.requireEligibleHost.isTruthy then
    Journaled.write .warning .submission
      ("No eligible host for route " ++ selection.route.id ++ " of form " ++ s.form.id)
    Journaled.fail (.routing (.noEligibleHost decision))
  else pure decision

/-- The decision on a submission to a form that is known under an id. A route is selected whatever the
id is, but the forms that were walked can only be told if their ids are texts. -/
def decideFor (s : Submission) (id : Value) : Journaled Decision :=
  match id with
  | .text _ => s.decide
  | _ => do
    let response ← normalizeResponse s.form.fields s.raw
    let t ← s.table
    let _ ← s.recorded (s.selectFrom t response)
    Journaled.fail (.misuse .notText)

/-- Whether deciding on a submission creates a fallback: it does once the response is read. -/
def createsFallback (s : Submission) : Bool :=
  s.lacksFallback && (normalizeResponse s.form.fields s.raw).outcome.isOk

end Submission

end SubmissionRouting
