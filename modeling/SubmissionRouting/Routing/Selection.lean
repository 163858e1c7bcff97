import SubmissionRouting.Condition.Evaluation
import SubmissionRouting.Response

/-! # Selecting a route

The routes of a table are tried from top to bottom. The first one whose condition holds is selected;
fallbacks are passed over, and the first fallback is selected if nothing else is, wherever it stands.

* `RouteTable.context`: the context in which the conditions of a table are evaluated.
* `firstMatch`: the first route that matches, with references left to a handler.
* `RouteTable.select`: the route that one table selects, without its references. -/

namespace SubmissionRouting

namespace RouteTable

/-- The context of a table: its own fields type the answers, or the given ones if it has none. -/
def context (t : RouteTable) (response : Response) (fields : Option (List Field)) :
    Result Context :=
  match t.fields.or fields with
  | none => .error (.noCatalog t.formId)
  | some catalog => orFault (Context.ofResponse catalog response)

end RouteTable

/-- The first route that matches. What a reference contributes is up to the handler. -/
def firstMatch (formId : String) (context : Context)
    (onReference : RouterReference → Journaled (Option Selection)) :
    List Route → Journaled (Option Selection)
  | [] => pure none
  | .reference r :: routes => do
    match ← onReference r with
    | some s => pure (some s)
    | none => firstMatch formId context onReference routes
  | .rule r :: routes => do
    if r.isFallback then firstMatch formId context onReference routes
    else
      Journaled.write .debug .selection ("Evaluating route " ++ r.id ++ " of form " ++ formId)
      if ← r.query.evaluate context then pure (some ⟨r, .rule, [formId], none⟩)
      else firstMatch formId context onReference routes

namespace RouteTable

/-- The selection of the fallback. Whether its rules hold is told if it has any, and changes
nothing. -/
def selectFallback (t : RouteTable) (context : Context) : Journaled Selection :=
  match t.fallback? with
  | none => Journaled.fail (.routing (.brokenTable .noFallback t.formId))
  | some r => do
    let holds ←
      if r.query.isFilledGroup then some <$> r.query.evaluate context else pure none
    pure ⟨r, .fallback, [t.formId], holds⟩

/-- The route that a table selects for a response. References are passed over. -/
def select (t : RouteTable) (response : Response) (fields : Option (List Field)) :
    Journaled Selection := do
  let context ← t.context response fields
  match ← firstMatch t.formId context (fun _ => pure none) t.routes with
  | some s => pure s
  | none => t.selectFallback context

end RouteTable

end SubmissionRouting
