import SubmissionRouting.Proofs.Routing.Inlining
import SubmissionRouting.Proofs.Table.WellFormed

/-! # What a table selects

A selection is one by a rule, which is the first that matches, or one by the first fallback
(`RouteTable.select_cases`). Tables in which the same route matches first, to whatever response and
whatever references contribute, are `TriedAlike`: they make the same selections by rules, and if they
have the same fallback they make all selections alike, by themselves and through chains.

Fallbacks are passed over, so tables with the same `others` are tried alike
(`TriedAlike.of_others`). -/

namespace SubmissionRouting

/-! ### First match -/

section FirstMatch
variable (formId : String) (context : Context)
  (onReference : RouterReference → Journaled (Option Selection))

theorem firstMatch_filter_others (routes : List Route) :
    firstMatch formId context onReference (routes.filter fun r => !r.isFallback) =
      firstMatch formId context onReference routes := by
  induction routes with
  | nil => rfl
  | cons route routes ih =>
    cases route with
    | reference r => rw [List.filter_cons_of_pos (by rfl), firstMatch, firstMatch, ih]
    | rule r =>
      by_cases hf : r.isFallback = true
      · rw [List.filter_cons_of_neg (by simpa [Route.isFallback] using hf), ih, firstMatch,
          if_pos hf]
      · rw [List.filter_cons_of_pos (by simpa [Route.isFallback] using hf), firstMatch, firstMatch,
          ih]

theorem RuleRoute.eq_of_verdict_eq_ok {response : Response} {catalog : Mapping Slot}
    {chain : List String} {r : RuleRoute} {s : Selection}
    (h : r.verdict response catalog chain = some (.ok s)) : s = ⟨r, .rule, chain, none⟩ := by
  unfold verdict at h
  rcases hquery : (r.query.evaluate ⟨response, catalog⟩).outcome with e | _ | _ <;>
    rw [hquery] at h <;> cases h
  rfl

theorem matchedBy_of_firstMatch {routes : List Route} {s : Selection}
    (h : (firstMatch formId context (fun _ => pure none) routes).outcome = .ok (some s)) :
    s.matchedBy = .rule := by
  have hfirst := decided_firstMatch formId context (fun _ => pure none) routes
  rw [h] at hfirst
  obtain ⟨route, -, hroute⟩ := List.exists_of_findSome?_eq_some hfirst.symm
  cases route with
  | reference r => cases hroute
  | rule r =>
    rw [Route.verdict] at hroute
    split_ifs at hroute
    rw [RuleRoute.eq_of_verdict_eq_ok hroute]

end FirstMatch

namespace RouteTable

variable {t u : RouteTable} {response : Response} {fields : Option (List Field)} {s : Selection}

/-! ### Selections -/

/-- A fallback is selected whatever its condition comes to. -/
theorem route_of_selectFallback {context : Context}
    (h : (t.selectFallback context).outcome = .ok s) :
    t.fallback? = some s.route ∧ s.matchedBy = .fallback ∧ s.chain = [t.formId] := by
  rw [outcome_selectFallback, fallbackVerdict] at h
  cases hr : t.fallback? with
  | none => rw [hr] at h; cases h
  | some r =>
    rw [hr] at h
    dsimp only at h
    cases hholds : (if r.query.isFilledGroup then (r.query.evaluate context).outcome.map some
        else Except.ok none) with
    | error e => rw [hholds] at h; cases h
    | ok holds =>
      rw [hholds] at h
      cases h
      exact ⟨rfl, rfl, rfl⟩

/-- **A selection** is one by a rule, the first that matches, or, if none does, by the fallback. -/
theorem select_cases (h : (t.select response fields).outcome = .ok s) :
    ∃ context, t.context response fields = .ok context ∧
      let found := (firstMatch t.formId context (fun _ => pure none) t.routes).outcome
      (s.matchedBy = .rule ∧ found = .ok (some s)) ∨
        (s.matchedBy = .fallback ∧ found = .ok none ∧ t.fallback? = some s.route) := by
  rw [select, Journaled.outcome_bind, Journaled.outcome_liftM] at h
  obtain ⟨context, hcontext, h⟩ := exists_of_bind_eq_ok h
  refine ⟨context, hcontext, ?_⟩
  intro found
  rw [Journaled.outcome_bind] at h
  obtain ⟨first, hfirst, h⟩ := exists_of_bind_eq_ok h
  cases first with
  | some s' =>
    cases h
    exact Or.inl ⟨matchedBy_of_firstMatch _ _ hfirst, hfirst⟩
  | none =>
    obtain ⟨hroute, hmatched, -⟩ := route_of_selectFallback h
    exact Or.inr ⟨hmatched, hfirst, hroute⟩

/-! ### Tables that are tried alike -/

/-- In both tables, of the same form, the same route matches first. -/
structure TriedAlike (t u : RouteTable) : Prop where
  formId : u.formId = t.formId
  fields : u.fields = t.fields
  firstMatch : ∀ formId context onReference,
    firstMatch formId context onReference u.routes = firstMatch formId context onReference t.routes

theorem TriedAlike.of_others (hform : u.formId = t.formId) (hfields : u.fields = t.fields)
    (hothers : u.others = t.others) : TriedAlike t u := by
  refine ⟨hform, hfields, fun formId context onReference => ?_⟩
  rw [← firstMatch_filter_others _ _ _ u.routes, ← firstMatch_filter_others _ _ _ t.routes]
  exact congrArg _ hothers

namespace TriedAlike

theorem context_eq (h : TriedAlike t u) (response : Response) (fields : Option (List Field)) :
    u.context response fields = t.context response fields := by
  unfold context
  rw [h.fields, h.formId]

theorem selectFallback_eq (h : TriedAlike t u) (hfallback : u.fallback? = t.fallback?)
    (context : Context) : u.selectFallback context = t.selectFallback context := by
  unfold selectFallback
  rw [hfallback, h.formId]

theorem select_of_rule (h : TriedAlike t u) (hs : (t.select response fields).outcome = .ok s)
    (hrule : s.matchedBy = .rule) : (u.select response fields).outcome = .ok s := by
  obtain ⟨context, hcontext, ⟨-, hfirst⟩ | ⟨hmatched, -⟩⟩ := select_cases hs
  · rw [select, Journaled.outcome_bind, Journaled.outcome_liftM, h.context_eq, hcontext, ok_bind,
      Journaled.outcome_bind, h.firstMatch, h.formId, hfirst]
    rfl
  · rw [hrule] at hmatched
    cases hmatched

theorem select_of_fallback (h : TriedAlike t u) {s' : Selection}
    (hs : (t.select response fields).outcome = .ok s) (hfallback : s.matchedBy = .fallback)
    (hs' : (u.select response fields).outcome = .ok s') :
    s'.matchedBy = .fallback ∧ u.fallback? = some s'.route := by
  obtain ⟨context, hcontext, ⟨hmatched, -⟩ | ⟨-, hfirst, -⟩⟩ := select_cases hs
  · rw [hfallback] at hmatched
    cases hmatched
  · obtain ⟨context', hcontext', ⟨-, hfirst'⟩ | ⟨hmatched', -, hroute'⟩⟩ := select_cases hs'
    · rw [h.context_eq, hcontext] at hcontext'
      cases hcontext'
      rw [h.firstMatch, h.formId, hfirst] at hfirst'
      cases hfirst'
    · exact ⟨hmatched', hroute'⟩

theorem select_eq (h : TriedAlike t u) (hfallback : u.fallback? = t.fallback?)
    (response : Response) (fields : Option (List Field)) :
    u.select response fields = t.select response fields := by
  unfold select
  rw [h.context_eq]
  congr 1
  funext context
  rw [h.firstMatch, h.formId, h.selectFallback_eq hfallback]

/-- They are also walked alike, since what references contribute depends on the form alone. -/
theorem walk_eq (h : TriedAlike t u) (ts : Tables) (response : Response) (path : List String)
    (fields : Option (List Field)) :
    walk ts response path u fields = walk ts response path t fields := by
  have hfollow : followReference ts response path u fields =
      followReference ts response path t fields := by
    funext r
    unfold followReference
    rw [h.formId]
  rw [SubmissionRouting.walk_eq, SubmissionRouting.walk_eq, h.context_eq, hfollow, h.formId]
  congr 1
  funext context
  exact h.firstMatch _ _ _

theorem resolve_eq (h : TriedAlike t u) (hfallback : u.fallback? = t.fallback?) (formId : String)
    (response : Response) (ts : Tables) (fields : Option (List Field)) :
    resolve formId u response ts fields = resolve formId t response ts fields := by
  have hentry : TriedAlike { t with formId := formId } { u with formId := formId } :=
    ⟨rfl, h.fields, h.firstMatch⟩
  unfold resolve
  dsimp only
  rw [hentry.walk_eq, hentry.context_eq]
  congr 1
  funext first
  cases first with
  | some s => rfl
  | none =>
    dsimp only
    congr 1
    funext context
    exact hentry.selectFallback_eq hfallback context

end TriedAlike

end RouteTable

end SubmissionRouting
