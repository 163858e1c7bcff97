import SubmissionRouting.Report
import SubmissionRouting.Proofs.FirstFault
import Mathlib.Data.List.Induction

/-! # What a report adds up to

A report is made by going through the routes. Each of its findings can also be told from the routes as
a whole: a count is that of the routes of a kind, and a route is unreachable if it stands behind the
first one that matches always. This is told by `Survey.ofRoutes`, and that the loop comes to the same is shown
route by route (`Survey.route_ofRoutes`, `Survey.foldlM_route`). It fails only at a rule whose field is
no key. So a report consists of these findings (`Form.report_eq`). -/

namespace SubmissionRouting

/-! ### Findings on routes as a whole -/

/-- The rule route that a route is. -/
def Route.rule? : Route → Option RuleRoute
  | rule r => some r
  | reference _ => none

/-- A route that is not the fallback and matches always. -/
def Route.matchesAlways : Route → Bool
  | rule r => !r.isFallback && r.query.isMatchAll
  | reference _ => false

/-- The rules in the query of a route. -/
def Route.queryRules : Route → List Rule
  | rule r => r.query.rules
  | reference _ => []

/-- The depths of the conditions of a route. -/
def Route.depths : Route → List Nat
  | rule r => [r.query.depth, r.attributesQuery.depth]
  | reference _ => []

/-- The ids that occur again later in a list. -/
def repeated : List String → List String
  | [] => []
  | id :: ids => if id ∈ ids then id :: repeated ids else repeated ids

/-- The routes after the first one that matches always, without fallbacks. -/
def behindMatchAll (routes : List Route) : List Route :=
  ((routes.dropWhile fun r => !r.matchesAlways).drop 1).filter fun r => !r.isFallback

/-- The ids in rules that are not among the known ones. -/
def unknownIds (known : List Value) (rules : List Rule) : List Value :=
  (rules.map (·.field)).filter fun id => !id.isIn known

/-- The fault of the first rule whose field is no key. -/
def keyFault? (rules : List Rule) : Option Misuse := rules.findSome? fun r => errorOf? r.field.asKey

theorem behindMatchAll_snoc (routes : List Route) (r : Route) :
    behindMatchAll (routes ++ [r]) =
      if (routes.find? Route.matchesAlways).isSome && !r.isFallback then
        behindMatchAll routes ++ [r]
      else behindMatchAll routes := by
  unfold behindMatchAll
  induction routes with
  | nil =>
    rw [List.nil_append, List.dropWhile_cons]
    cases r.matchesAlways <;> rfl
  | cons a routes ih =>
    rw [List.cons_append, List.find?_cons, List.dropWhile_cons, List.dropWhile_cons]
    cases ha : a.matchesAlways with
    | false => simpa using ih
    | true =>
      simp only [Bool.not_true, Bool.false_eq_true, if_false, List.drop_succ_cons, List.drop_zero,
        List.filter_append, Option.isSome_some, Bool.true_and]
      cases hr : r.isFallback <;> simp [hr]

theorem asKey_eq (v : Value) : v.asKey = unlessFault (errorOf? v.asKey) v := by
  unfold Value.asKey
  split_ifs <;> rfl

namespace Survey

/-- The findings on routes as a whole. -/
def ofRoutes (formId : String) (known : List Value) (routes : List Route) : Survey where
  seen := (routes.map Route.id).reverse
  duplicates := repeated (routes.map Route.id).reverse
  ruleRoutes := (routes.filterMap Route.rule?).length
  routerReferences := (routes.filterMap Route.reference?).length
  totalRules := (routes.flatMap Route.queryRules).length
  maxDepth := (routes.flatMap Route.depths).foldl max 0
  dangling := Value.distinct (unknownIds known (routes.flatMap Route.queryRules))
  unreachable := (behindMatchAll routes).map Route.id
  shadowedBy := (routes.find? Route.matchesAlways).map Route.id
  fallbackCount := (routes.filterMap Route.fallback?).length
  selfReferencing := routes.any (Route.refersTo formId)

section
variable {formId : String} {known : List Value}

/-- The findings with those on some rules. -/
def withRules (known : List Value) (rules : List Rule) (s : Survey) : Survey :=
  { s with
    totalRules := s.totalRules + rules.length
    dangling := (unknownIds known rules).foldl Value.noted s.dangling }

theorem foldlM_rule (s : Survey) (rules : List Rule) :
    rules.foldlM (rule known) s = unlessFault (keyFault? rules) (s.withRules known rules) := by
  induction rules generalizing s with
  | nil => rfl
  | cons r rules ih =>
    rw [List.foldlM_cons, keyFault?, List.findSome?_cons, rule, asKey_eq]
    cases errorOf? r.field.asKey with
    | some e => rfl
    | none =>
      have hdangling : (unknownIds known (r :: rules)).foldl Value.noted s.dangling =
          (unknownIds known rules).foldl Value.noted
            (if r.field.isIn known then s.dangling else Value.noted s.dangling r.field) := by
        rw [unknownIds, List.map_cons, List.filter_cons]
        cases r.field.isIn known <;> rfl
      show rules.foldlM (rule known) _ = _
      rw [ih, withRules, withRules, hdangling, List.length_cons, Nat.add_assoc, Nat.add_comm 1]
      rfl

theorem reference_ofRoutes (routes : List Route) (r : RouterReference) :
    ((ofRoutes formId known routes).meet r.id).reference formId r =
      ofRoutes formId known (routes ++ [.reference r]) := by
  cases hshadowed : routes.find? Route.matchesAlways <;>
    simp [meet, reference, ofRoutes, behindMatchAll_snoc, hshadowed, repeated, Route.id,
      Route.rule?, Route.reference?, Route.queryRules, Route.depths, Route.matchesAlways,
      Route.fallback?, Route.refersTo, Route.isFallback]

theorem place_ofRoutes (routes : List Route) (r : RuleRoute) :
    ((((ofRoutes formId known routes).meet r.id).weigh r).withRules known r.query.rules).place r =
      ofRoutes formId known (routes ++ [.rule r]) := by
  cases hshadowed : routes.find? Route.matchesAlways <;> cases hf : r.isFallback <;>
    cases hall : r.query.isMatchAll <;>
    simp [meet, weigh, withRules, place, ofRoutes, behindMatchAll_snoc, hshadowed, hf, hall,
      repeated, Route.id, Route.rule?, Route.reference?, Route.queryRules, Route.depths,
      Route.matchesAlways, Route.fallback?, Route.refersTo, Route.isFallback, unknownIds,
      Value.distinct]

theorem route_ofRoutes (routes : List Route) (r : Route) :
    route formId known (ofRoutes formId known routes) r =
      unlessFault (keyFault? r.queryRules) (ofRoutes formId known (routes ++ [r])) := by
  cases r with
  | reference r => exact congrArg Except.ok (reference_ofRoutes routes r)
  | rule r =>
    rw [route, ruleRoute, foldlM_rule, Route.queryRules, ← place_ofRoutes]
    cases keyFault? r.query.rules <;> rfl

/-- **What the loop comes to.** -/
theorem foldlM_route (routes : List Route) :
    routes.foldlM (route formId known) start =
      unlessFault (keyFault? (routes.flatMap Route.queryRules)) (ofRoutes formId known routes) := by
  induction routes using List.reverseRecOn with
  | nil => rfl
  | append_singleton routes r ih =>
    have hfault : keyFault? ((routes ++ [r]).flatMap Route.queryRules) =
        (keyFault? (routes.flatMap Route.queryRules)).or (keyFault? r.queryRules) := by
      rw [List.flatMap_append, List.flatMap_singleton, keyFault?, List.findSome?_append]
      rfl
    rw [List.foldlM_append, ih, hfault]
    cases keyFault? (routes.flatMap Route.queryRules) with
    | some e => rfl
    | none =>
      show [r].foldlM (route formId known) (ofRoutes formId known routes) = _
      rw [List.foldlM_cons, route_ofRoutes]
      cases keyFault? r.queryRules <;> rfl

end

end Survey

/-! ### The report -/

namespace Form

/-- The rules in the queries of the routes. -/
def rules (f : Form) : List Rule := f.routes.flatMap Route.queryRules

/-- The ids in rules that are no field's, each once. -/
def danglingIds (f : Form) : Except Misuse (List Value) := do
  let known ← f.fields.mapM fun x => x.id.asKey
  let _ ← f.rules.mapM fun r => r.field.asKey
  pure (Value.distinct (unknownIds known f.rules))

/-- The routes behind the first one that matches always. -/
def unreachable (f : Form) : List Route := behindMatchAll f.routes

/-- The last fallback stands at the last place if and only if the last route is a fallback. -/
theorem fallbackIsLast_eq (f : Form) : f.fallbackIsLast = f.table.endsInFallback := by
  unfold fallbackIsLast fallbackPlaces RouteTable.endsInFallback table
  cases f.routes using List.reverseRecOn with
  | nil => rfl
  | append_singleton routes r =>
    rw [List.getLast?_concat, Option.any_some, List.zipIdx_append, Nat.zero_add,
      List.filter_append, List.map_append]
    cases hr : r.isFallback with
    | true => simp [hr]
    | false =>
      have hlast : (([r].zipIdx routes.length).filter fun e => e.1.isFallback).map (·.2) = [] := by
        simp [hr]
      rw [hlast, List.append_nil, Option.any_eq_false]
      -- all other fallbacks stand before this route
      intro n hn
      obtain ⟨e, he, rfl⟩ := List.mem_map.mp (List.mem_of_getLast? hn)
      have hlt := List.snd_lt_of_mem_zipIdx (List.mem_filter.mp he).1
      rw [List.length_append, List.length_singleton, beq_eq_false_iff_ne]
      omega

/-- **What a report consists of.** -/
theorem report_eq (f : Form) : f.report = (do
    let dangling ← Value.textsOf (← f.danglingIds)
    pure
      { formId := f.id
        totalRoutes := f.routes.length
        ruleRoutes := (f.routes.filterMap Route.rule?).length
        routerReferences := f.table.references.length
        totalRules := f.rules.length
        maxDepth := (f.routes.flatMap Route.depths).foldl max 0
        danglingFields := sortedTexts dangling
        unreachableRoutes := f.unreachable.map Route.id
        shadowedBy := (f.routes.find? Route.matchesAlways).map Route.id
        duplicateRouteIds := sortedTexts (repeated (f.routes.map Route.id).reverse)
        fallbackCount := f.table.fallbacks.length
        fallbackIsLast := f.table.endsInFallback
        selfReferencing := f.routes.any (Route.refersTo f.id) }) := by
  unfold report danglingIds
  cases f.fields.mapM fun x => x.id.asKey with
  | error e => rfl
  | ok known =>
    have hkeys : f.rules.mapM (fun r => r.field.asKey) =
        unlessFault (keyFault? f.rules) (f.rules.map (·.field)) :=
      mapM_unlessFault fun r _ => asKey_eq r.field
    have hloop : f.routes.foldlM (Survey.route f.id known) .start =
        unlessFault (keyFault? f.rules) (.ofRoutes f.id known f.routes) :=
      Survey.foldlM_route f.routes
    rw [ok_bind, ok_bind, hloop, hkeys, fallbackIsLast_eq]
    show (unlessFault (keyFault? f.rules) _ >>= _) = _
    cases keyFault? f.rules <;> rfl

end Form

end SubmissionRouting
