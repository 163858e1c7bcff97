import SubmissionRouting.Proofs.FirstFault
import SubmissionRouting.Proofs.Routing.Following

/-! # Inlined tables

A reference stands for the routes of the table it leads to, without the fallbacks. Put in place of
every reference, these routes make one flat list of items (`inlined`): rules, each with the catalog
of the table it comes from and the forms walked to that table, and faults, where a reference closes
a cycle or leads nowhere. A table whose answers cannot be typed, since it has no catalog or one with
an id that is no key, is a fault as a whole.

A fault always says something to a response, a rule if its condition holds or cannot be evaluated
(`Item.verdict`). The walk through a table comes to what the first item comes to that says anything
(`decided_walk`), and so does the resolution of a chain, which falls back on the entry table
otherwise (`resolve_eq_first_item`). -/

namespace SubmissionRouting

/-! ### Items -/

/-- An entry of a table that has its references replaced. -/
inductive Item where
  | fault (cause : Fault)
  | rule (route : RuleRoute) (catalog : Mapping Slot) (chain : List String)

/-- What a rule says to a response: nothing if its condition fails, or else its selection or the
fault of its condition. -/
def RuleRoute.verdict (response : Response) (catalog : Mapping Slot) (chain : List String)
    (r : RuleRoute) : Option (Result Selection) :=
  match (r.query.evaluate ⟨response, catalog⟩).outcome with
  | .error cause => some (.error cause)
  | .ok true => some (.ok ⟨r, .rule, chain, none⟩)
  | .ok false => none

/-- What an item says to a response. -/
def Item.verdict (response : Response) : Item → Option (Result Selection)
  | fault cause => some (.error cause)
  | rule r catalog chain => r.verdict response catalog chain

/-- The catalog of a table: its own fields, or the given ones if it has none. -/
def RouteTable.catalog (t : RouteTable) (fields : Option (List Field)) : Result (Mapping Slot) :=
  match t.fields.or fields with
  | none => .error (.noCatalog t.formId)
  | some catalog => orFault (Context.catalogOfFields catalog)

theorem RouteTable.context_eq (t : RouteTable) (response : Response)
    (fields : Option (List Field)) :
    t.context response fields = (t.catalog fields).map fun catalog => ⟨response, catalog⟩ := by
  unfold RouteTable.context RouteTable.catalog Context.ofResponse
  cases t.fields.or fields with
  | none => rfl
  | some catalog =>
    dsimp only
    cases Context.catalogOfFields catalog <;> rfl

/-- The items of a route, with those of a reference left to a function. -/
def Route.items (catalog : Mapping Slot) (chain : List String)
    (ofReference : RouterReference → List Item) : Route → List Item
  | rule r => if r.isFallback then [] else [.rule r catalog chain]
  | reference r => ofReference r

/-- The items of a table that is reached along a path of ids; the chain holds the forms of the
tables on that path, with the table's own form as the last. -/
def inlined (ts : Tables) (path chain : List String) (t : RouteTable)
    (fields : Option (List Field)) : List Item :=
  match t.catalog fields with
  | .error cause => [.fault cause]
  | .ok catalog =>
    t.routes.flatMap <| Route.items catalog chain fun r =>
      match _ : ts.follow path r.id with
      | .error cause => [.fault (.routing cause)]
      | .ok next =>
        inlined ts (path ++ [r.id]) (chain ++ [next.formId]) next (next.fields.or fields)
termination_by unvisited ts.ids path
decreasing_by
  obtain ⟨hid, hget⟩ := Tables.follow_eq_ok_iff.mp ‹_›
  exact unvisited_append_lt (Tables.mem_ids_of_get? hget) hid

/-- The items that stand for a reference. -/
def inlinedReference (ts : Tables) (path chain : List String) (fields : Option (List Field))
    (r : RouterReference) : List Item :=
  match ts.follow path r.id with
  | .error cause => [.fault (.routing cause)]
  | .ok next => inlined ts (path ++ [r.id]) (chain ++ [next.formId]) next (next.fields.or fields)

section Inlined
variable {ts : Tables} {path chain : List String} {t : RouteTable} {fields : Option (List Field)}

theorem inlined_of_error {cause : Fault} (h : t.catalog fields = .error cause) :
    inlined ts path chain t fields = [.fault cause] := by
  rw [inlined, h]

theorem inlined_of_ok {catalog : Mapping Slot} (h : t.catalog fields = .ok catalog) :
    inlined ts path chain t fields =
      t.routes.flatMap (Route.items catalog chain (inlinedReference ts path chain fields)) := by
  rw [inlined, h]
  dsimp only
  congr 2
  funext r
  unfold inlinedReference
  split <;> next hnext => rw [hnext]

/-- **What an item of a table is**: the fault of its catalog, a rule that is no fallback, or, for a
reference, the fault of following it or an item of the table that it leads to. -/
theorem mem_inlined_cases {item : Item} (h : item ∈ inlined ts path chain t fields) :
    (∃ cause, t.catalog fields = .error cause ∧ item = .fault cause) ∨
    (∃ r catalog, Route.rule r ∈ t.routes ∧ r.isFallback = false ∧ t.catalog fields = .ok catalog ∧
      item = .rule r catalog chain) ∨
    ∃ r, Route.reference r ∈ t.routes ∧
      ((∃ e, ts.follow path r.id = .error e ∧ item = .fault (.routing e)) ∨
        ∃ next, ts.follow path r.id = .ok next ∧
          item ∈ inlined ts (path ++ [r.id]) (chain ++ [next.formId]) next
            (next.fields.or fields)) := by
  cases hcat : t.catalog fields with
  | error cause =>
    rw [inlined_of_error hcat, List.mem_singleton] at h
    exact .inl ⟨cause, rfl, h⟩
  | ok catalog =>
    rw [inlined_of_ok hcat, List.mem_flatMap] at h
    obtain ⟨route, hroute, h⟩ := h
    cases route with
    | rule r =>
      rw [Route.items] at h
      split_ifs at h with hf
      · cases h
      · exact .inr (.inl ⟨r, catalog, hroute, Bool.eq_false_iff.mpr hf, rfl, List.mem_singleton.mp h⟩)
    | reference r =>
      rw [Route.items, inlinedReference] at h
      refine .inr (.inr ⟨r, hroute, ?_⟩)
      cases hnext : ts.follow path r.id with
      | error e =>
        rw [hnext, List.mem_singleton] at h
        exact .inl ⟨e, rfl, h⟩
      | ok next =>
        rw [hnext] at h
        exact .inr ⟨next, rfl, h⟩

end Inlined

/-! ### First match -/

/-- What a step of a walk says: nothing if it goes on, or else what it comes to. -/
def decided {α : Type} : Result (Option α) → Option (Result α)
  | .error cause => some (.error cause)
  | .ok none => none
  | .ok (some a) => some (.ok a)

/-- What a route says to a response, with references left to a handler. -/
def Route.verdict (formId : String) (context : Context)
    (onReference : RouterReference → Journaled (Option Selection)) :
    Route → Option (Result Selection)
  | reference r => decided (onReference r).outcome
  | rule r => if r.isFallback then none else r.verdict context.values context.catalog [formId]

/-- **First match.** The walk through the routes of a table comes to what the first of them comes to
that says anything. -/
theorem decided_firstMatch (formId : String) (context : Context)
    (onReference : RouterReference → Journaled (Option Selection)) (routes : List Route) :
    decided (firstMatch formId context onReference routes).outcome =
      routes.findSome? (Route.verdict formId context onReference) := by
  induction routes with
  | nil => rfl
  | cons route routes ih =>
    rw [List.findSome?_cons, ← ih]
    cases route with
    | reference r =>
      rw [firstMatch, Journaled.outcome_bind, Route.verdict]
      rcases (onReference r).outcome with e | _ | s <;> rfl
    | rule r =>
      rw [firstMatch, Route.verdict]
      by_cases hf : r.isFallback
      · rw [if_pos hf, if_pos hf]
      · rw [if_neg hf, if_neg hf, RuleRoute.verdict]
        simp only [Journaled.outcome_bind, Journaled.outcome_write]
        rcases (r.query.evaluate context).outcome with e | _ | _ <;> rfl

/-! ### The walk -/

/-- A selection seen from a table that is reached over the given forms. -/
def Selection.after (before : List String) (s : Selection) : Selection :=
  { s with chain := before ++ s.chain }

theorem Selection.after_via (before : List String) (formId : String) (s : Selection) :
    (s.via formId).after before = s.after (before ++ [formId]) := by
  simp [Selection.via, Selection.after]

/-- What a rule says, seen from a table that is reached over the given forms. -/
theorem map_after_verdict (response : Response) (catalog : Mapping Slot) (before : List String)
    (formId : String) (r : RuleRoute) :
    (r.verdict response catalog [formId]).map (Except.map (Selection.after before)) =
      r.verdict response catalog (before ++ [formId]) := by
  unfold RuleRoute.verdict
  rcases (r.query.evaluate ⟨response, catalog⟩).outcome with e | _ | _ <;> rfl

theorem decided_followReference (ts : Tables) (response : Response) (path : List String)
    (t : RouteTable) (fields : Option (List Field)) (r : RouterReference) :
    decided (followReference ts response path t fields r).outcome =
      match ts.follow path r.id with
      | .error cause => some (.error (.routing cause))
      | .ok next =>
        (decided (walk ts response (path ++ [r.id]) next (next.fields.or fields)).outcome).map
          (Except.map (Selection.via t.formId)) := by
  unfold followReference
  cases ts.follow path r.id with
  | error cause => rfl
  | ok next =>
    simp only [Journaled.outcome_bind, Journaled.outcome_write]
    rcases (walk ts response (path ++ [r.id]) next (next.fields.or fields)).outcome
      with e | _ | s <;> rfl

/-- **The walk through a table** comes to what the first of its items comes to that says
anything. -/
theorem decided_walk (ts : Tables) (response : Response) (path before : List String)
    (t : RouteTable) (fields : Option (List Field)) :
    (decided (walk ts response path t fields).outcome).map (Except.map (Selection.after before)) =
      (inlined ts path (before ++ [t.formId]) t fields).findSome? (Item.verdict response) := by
  induction path, t using ts.follow_induction generalizing before fields with
  | step path t ih =>
    rw [walk_eq, Journaled.outcome_bind, Journaled.outcome_liftM, t.context_eq]
    cases hcat : t.catalog fields with
    | error cause => rw [inlined_of_error hcat]; rfl
    | ok catalog =>
      show Option.map _ (decided (firstMatch t.formId ⟨response, catalog⟩ _ t.routes).outcome) = _
      rw [inlined_of_ok hcat, decided_firstMatch, List.map_findSome?, findSome?_flatMap]
      congr 1
      funext route
      cases route with
      | rule r =>
        rw [Function.comp_apply, Route.verdict, Route.items]
        by_cases hf : r.isFallback
        · rw [if_pos hf, if_pos hf]; rfl
        · rw [if_neg hf, if_neg hf, List.findSome?_singleton, map_after_verdict]; rfl
      | reference r =>
        rw [Function.comp_apply, Route.verdict, Route.items, decided_followReference,
          inlinedReference]
        cases hnext : ts.follow path r.id with
        | error cause => rfl
        | ok next =>
          dsimp only
          rw [← ih r.id next hnext, Option.map_map]
          congr 1
          funext o
          cases o with
          | error e => rfl
          | ok s => exact congrArg Except.ok (s.after_via before t.formId)

/-! ### Resolution -/

/-- What a table comes to if no route matches. Its first fallback is selected whatever the rules of the
fallback come to, and whether they hold is told if there are any; only that can fail. Without a
fallback there is nothing to select. -/
def RouteTable.fallbackVerdict (t : RouteTable) (context : Context) : Result Selection :=
  match t.fallback? with
  | none => .error (.routing (.brokenTable .noFallback t.formId))
  | some r =>
    (if r.query.isFilledGroup then (r.query.evaluate context).outcome.map some
      else .ok none).map fun holds => ⟨r, .fallback, [t.formId], holds⟩

theorem RouteTable.outcome_selectFallback (t : RouteTable) (context : Context) :
    (t.selectFallback context).outcome = t.fallbackVerdict context := by
  unfold RouteTable.selectFallback RouteTable.fallbackVerdict
  cases t.fallback? with
  | none => rfl
  | some r =>
    dsimp only
    by_cases hf : r.query.isFilledGroup
    · rw [if_pos hf, if_pos hf]
      show Journaled.outcome ((r.query.evaluate context >>= fun b => pure (some b)) >>= _) = _
      rw [Journaled.outcome_bind, Journaled.outcome_bind]
      cases (r.query.evaluate context).outcome <;> rfl
    · rw [if_neg hf, if_neg hf]; rfl

/-- What is selected if no route of a table matches: its first fallback. -/
def RouteTable.fallbackOutcome (t : RouteTable) (response : Response)
    (fields : Option (List Field)) : Result Selection :=
  t.context response fields >>= fun context => (t.selectFallback context).outcome

theorem RouteTable.fallbackOutcome_eq (t : RouteTable) (response : Response)
    (fields : Option (List Field)) :
    t.fallbackOutcome response fields = t.context response fields >>= t.fallbackVerdict := by
  rw [fallbackOutcome]
  congr 1
  exact funext t.outcome_selectFallback

theorem decided_walk_entry (ts : Tables) (response : Response) (entry : RouteTable)
    (fields : Option (List Field)) :
    decided (walk ts response [entry.formId] entry fields).outcome =
      (inlined ts [entry.formId] [entry.formId] entry fields).findSome?
        (Item.verdict response) := by
  have h := decided_walk ts response [entry.formId] [] entry fields
  rwa [show Except.map (Selection.after []) = id from funext fun o => by cases o <;> rfl,
    Option.map_id, id] at h

theorem outcome_resolve (formId : String) (t : RouteTable) (response : Response) (ts : Tables)
    (fields : Option (List Field)) :
    let entry := { t with formId := formId }
    (resolve formId t response ts fields).outcome =
      (decided (walk ts response [formId] entry fields).outcome).getD
        (entry.fallbackOutcome response fields) := by
  intro entry
  rw [resolve, Journaled.outcome_bind]
  rcases (walk ts response [formId] entry fields).outcome with e | _ | s
  · rfl
  · show ((do entry.selectFallback (← entry.context response fields)) : Journaled _).outcome = _
    rw [Journaled.outcome_bind, Journaled.outcome_liftM]; rfl
  · rfl

/-- **Chain resolution is first match over the inlined table.** The outcome is what the first item
comes to that says anything to the response; if none does, it is that of the fallback of the entry
table, which is selected whether its own rules hold or not. -/
theorem resolve_eq_first_item (formId : String) (t : RouteTable) (response : Response)
    (ts : Tables) (fields : Option (List Field)) :
    let entry := { t with formId := formId }
    (resolve formId t response ts fields).outcome =
        ((inlined ts [formId] [formId] entry fields).findSome? (Item.verdict response)).getD
          (entry.fallbackOutcome response fields) ∧
      entry.fallbackOutcome response fields =
        entry.context response fields >>= entry.fallbackVerdict := by
  intro entry
  refine ⟨?_, entry.fallbackOutcome_eq response fields⟩
  rw [outcome_resolve, ← decided_walk_entry ts response entry fields]

end SubmissionRouting
