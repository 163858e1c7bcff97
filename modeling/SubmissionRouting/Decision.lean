import SubmissionRouting.Value.Mapping
import SubmissionRouting.Form.Route

/-! # Selections and decisions

* `Selection`: the route that a table selects for a response, and how it came to be selected.
* `Decision`: what is done with a submission: the action, the hosts that remain, and the parameters
  that are handed on. -/

namespace SubmissionRouting

/-- How a route came to be selected. -/
inductive MatchKind where
  | rule
  | fallback
deriving DecidableEq

/-- The name of the way in which a route was selected. -/
def MatchKind.name : MatchKind → String
  | rule => "rule"
  | fallback => "fallback"

/-- The outcome of walking a table. -/
structure Selection where
  route : RuleRoute
  matchedBy : MatchKind
  /-- The forms walked, from the one that was submitted to the one that has the route. -/
  chain : List String
  /-- Whether the rules of a selected fallback hold, if it has rules. -/
  fallbackTreeMatched : Option Bool

/-- The form that has the selected route. -/
def Selection.formId? (s : Selection) : Option String := s.chain.getLast?

/-- The parameters that are handed on: names with several values each, in order. -/
abbrev Parameters := Mapping (List Value)

/-- The outcome of routing a submission. -/
structure Decision where
  action : Action
  routeId : String
  matchedBy : MatchKind
  chain : List String
  /-- The hosts that remain, if hosts were filtered. -/
  matchedHosts : Option (List Value)
  parameters : Parameters

/-- Hosts were not filtered, or some remain. -/
def Decision.hasEligibleHosts (d : Decision) : Bool :=
  match d.matchedHosts with
  | none => true
  | some ids => !ids.isEmpty

end SubmissionRouting
