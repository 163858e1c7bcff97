import SubmissionRouting.Form.Table
import SubmissionRouting.Value.Items

/-! # Reports on forms

What the author of a form should know of its routes: how many there are, which rules are on fields
that the form does not have, which routes come after one that matches always, and whether the
fallback is where it belongs.

* `Report`: the findings.
* `Report.warnings`: the findings in words.
* `Survey`: what is found while the routes are gone through.
* `Form.report`: the findings on a form. -/

namespace SubmissionRouting

/-- The findings on the routes of a form. -/
structure Report where
  formId : String
  totalRoutes : Nat
  ruleRoutes : Nat
  routerReferences : Nat
  totalRules : Nat
  maxDepth : Nat
  /-- The ids in rules that are no field's, sorted. -/
  danglingFields : List String
  /-- The routes after one that matches always. -/
  unreachableRoutes : List String
  /-- The first route that matches always. -/
  shadowedBy : Option String
  /-- The ids that several routes have, sorted. -/
  duplicateRouteIds : List String
  fallbackCount : Nat
  fallbackIsLast : Bool
  selfReferencing : Bool

namespace Report

/-- Texts divided by commas. -/
def listed (texts : List String) : String := ", ".intercalate texts

/-- The finding on the fallback. -/
def fallbackWarning (r : Report) : List String :=
  if r.fallbackCount = 0 then ["Missing fallback route"]
  else if r.fallbackCount > 1 then
    ["Multiple fallback routes: " ++ decimalText r.fallbackCount]
  else if !r.fallbackIsLast then ["Fallback route is not last"]
  else []

/-- The findings in words. -/
def warnings (r : Report) : List String :=
  r.fallbackWarning ++
  (if r.danglingFields.isEmpty then []
    else ["Rules reference unknown fields: " ++ listed r.danglingFields]) ++
  (if r.unreachableRoutes.isEmpty then []
    else ["Routes after match-all route " ++ r.shadowedBy.getD "" ++ " are unreachable: " ++
      listed r.unreachableRoutes]) ++
  (if r.duplicateRouteIds.isEmpty then []
    else ["Duplicate route ids: " ++ listed r.duplicateRouteIds]) ++
  (if r.selfReferencing then ["Form routes through itself"] else []) ++
  (if r.maxDepth > 5 then
    ["High condition complexity: max depth " ++ decimalText r.maxDepth] else [])

end Report

/-- Texts in order, each once. -/
def sortedTexts (texts : List String) : List String :=
  texts.eraseDups.mergeSort fun s t => s ≤ t

/-! ### Going through the routes -/

/-- What is found while the routes are gone through. -/
structure Survey where
  /-- The ids met so far. -/
  seen : List String
  /-- The ids met when they had been seen before. -/
  duplicates : List String
  ruleRoutes : Nat
  routerReferences : Nat
  totalRules : Nat
  maxDepth : Nat
  /-- The ids in rules that are no field's. -/
  dangling : List Value
  unreachable : List String
  shadowedBy : Option String
  fallbackCount : Nat
  selfReferencing : Bool

namespace Survey

/-- Nothing is found yet. -/
def start : Survey := ⟨[], [], 0, 0, 0, 0, [], [], none, 0, false⟩

/-- Meets the id of a route. -/
def meet (s : Survey) (id : String) : Survey :=
  { s with
    seen := id :: s.seen
    duplicates := if id ∈ s.seen then id :: s.duplicates else s.duplicates }

/-- Goes through a reference. -/
def reference (formId : String) (s : Survey) (r : RouterReference) : Survey :=
  { s with
    routerReferences := s.routerReferences + 1
    selfReferencing := s.selfReferencing || r.id == formId
    unreachable := if s.shadowedBy.isSome then s.unreachable ++ [r.id] else s.unreachable }

/-- Goes through a rule, given the ids of the fields. -/
def rule (known : List Value) (s : Survey) (r : Rule) : Except Misuse Survey := do
  let id ← r.field.asKey
  pure { s with
    totalRules := s.totalRules + 1
    dangling := if id.isIn known then s.dangling else Value.noted s.dangling id }

/-- Counts a fallback. Any other rule route is behind one that matches always, or may be one. -/
def place (s : Survey) (r : RuleRoute) : Survey :=
  if r.isFallback then { s with fallbackCount := s.fallbackCount + 1 }
  else if s.shadowedBy.isSome then { s with unreachable := s.unreachable ++ [r.id] }
  else if r.query.isMatchAll then { s with shadowedBy := some r.id }
  else s

/-- Counts a rule route and takes note of its depth. -/
def weigh (s : Survey) (r : RuleRoute) : Survey :=
  { s with
    ruleRoutes := s.ruleRoutes + 1
    maxDepth := max (max s.maxDepth r.query.depth) r.attributesQuery.depth }

/-- Goes through a rule route and the rules of its query. -/
def ruleRoute (known : List Value) (s : Survey) (r : RuleRoute) : Except Misuse Survey := do
  let s ← r.query.rules.foldlM (rule known) (s.weigh r)
  pure (s.place r)

/-- Goes through a route of the form with an id. -/
def route (formId : String) (known : List Value) (s : Survey) : Route → Except Misuse Survey
  | .reference r => pure ((s.meet r.id).reference formId r)
  | .rule r => (s.meet r.id).ruleRoute known r

end Survey

namespace Form

/-- The places of the fallbacks. -/
def fallbackPlaces (f : Form) : List Nat :=
  (f.routes.zipIdx.filter fun e => e.1.isFallback).map (·.2)

/-- The last fallback stands at the last place. -/
def fallbackIsLast (f : Form) : Bool :=
  f.fallbackPlaces.getLast?.any fun n => n + 1 == f.routes.length

/-- The findings on a form. -/
def report (f : Form) : Except Misuse Report := do
  let known ← f.fields.mapM fun x => x.id.asKey
  let s ← f.routes.foldlM (Survey.route f.id known) .start
  let dangling ← Value.textsOf s.dangling
  pure
    { formId := f.id
      totalRoutes := f.routes.length
      ruleRoutes := s.ruleRoutes
      routerReferences := s.routerReferences
      totalRules := s.totalRules
      maxDepth := s.maxDepth
      danglingFields := sortedTexts dangling
      unreachableRoutes := s.unreachable
      shadowedBy := s.shadowedBy
      duplicateRouteIds := sortedTexts s.duplicates
      fallbackCount := s.fallbackCount
      fallbackIsLast := f.fallbackIsLast
      selfReferencing := s.selfReferencing }

end Form

end SubmissionRouting
