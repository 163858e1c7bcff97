import SubmissionRouting.Proofs.Condition.Outcome
import SubmissionRouting.Proofs.Routing.Inlining
import SubmissionRouting.Proofs.Routing.ReferenceCheck

/-! # The check and the resolution agree

A table that is checked when it is saved is resolved when a submission comes in. The two go along
references in the same order and give up at the same place, so the fault items of the inlined table
are the failures of the check. If the check does not fail, no item is a fault of references
(`not_routing_of_checked`), and no resolution ends in one. If no rule of a table that can be reached
says anything to a response (`Silent`), the first item that does is the first failure of the check
(`findSome?_verdict_of_silent`). -/

namespace SubmissionRouting

open Relation

/-! ### Tables that were checked -/

theorem unrouted_catalog (t : RouteTable) (fields : Option (List Field)) :
    Unrouted (t.catalog fields) := by
  unfold RouteTable.catalog
  cases t.fields.or fields with
  | none => exact nofun
  | some catalog => exact (ofValues_orFault _).unrouted

/-- **No item of a table that was checked is a fault of references.** -/
theorem not_routing_of_checked {ts : Tables} {path chain : List String} {t : RouteTable}
    {fields : Option (List Field)} (hok : faultFrom ts path t = none) {e : RoutingFault} :
    Item.fault (.routing e) ∉ inlined ts path chain t fields := by
  intro hmem
  induction path, t using ts.follow_induction generalizing chain fields with
  | step path t ih =>
    rcases mem_inlined_cases hmem with ⟨cause, hcat, heq⟩ | ⟨r, catalog, -, -, -, heq⟩ |
      ⟨r, hroute, hfault | ⟨next, hnext, hitem⟩⟩
    · cases heq
      exact unrouted_catalog t fields e hcat
    · cases heq
    · obtain ⟨e', hfollow, -⟩ := hfault
      have hid : r.id ∈ t.referenceIds := RouteTable.mem_referenceIds_iff.mpr ⟨r, hroute, rfl⟩
      obtain ⟨next, hnext, -⟩ := follow_of_checked hok hid
      cases hfollow.symm.trans hnext
    · have hid : r.id ∈ t.referenceIds := RouteTable.mem_referenceIds_iff.mpr ⟨r, hroute, rfl⟩
      obtain ⟨next', hnext', hnextok⟩ := follow_of_checked hok hid
      cases hnext.symm.trans hnext'
      exact ih r.id next hnext hnextok hitem

/-! ### Silent tables -/

/-- A table has its own catalog, and none of its rules says anything to a response. -/
def RouteTable.Silent (response : Response) (t : RouteTable) : Prop :=
  ∃ catalog, t.catalog none = .ok catalog ∧
    ∀ r, Route.rule r ∈ t.routes → r.isFallback = false →
      (r.query.evaluate ⟨response, catalog⟩).outcome = .ok false

theorem catalog_of_none {t : RouteTable} {catalog : Mapping Slot} (h : t.catalog none = .ok catalog)
    (fields : Option (List Field)) : t.catalog fields = .ok catalog := by
  unfold RouteTable.catalog at h ⊢
  cases hf : t.fields with
  | none => rw [hf] at h; cases h
  | some own => rw [hf] at h; exact h

theorem findSome?_referenceIds {β : Type} (t : RouteTable) (f : String → Option β) :
    t.referenceIds.findSome? f = t.routes.findSome? fun route =>
      match route with
      | .rule _ => none
      | .reference r => f r.id := by
  rw [RouteTable.referenceIds, RouteTable.references, List.findSome?_map, findSome?_filterMap]
  congr 1
  funext route
  cases route <;> rfl

/-- **Among silent tables the first item that says anything is the first failure of the check.** -/
theorem findSome?_verdict_of_silent {ts : Tables} {root : RouteTable} {response : Response}
    (hsilent : ∀ x t, Reaches ts root x → ts.tableAt root x = some t → t.Silent response)
    {path chain : List String} {t : RouteTable} {fields : Option (List Field)}
    (h : Trail ts root path t) :
    (inlined ts path chain t fields).findSome? (Item.verdict response) =
      (faultFrom ts path t).map fun e => .error (.routing e) := by
  induction path, t using ts.follow_induction generalizing chain fields with
  | step path t ih =>
    obtain ⟨x, hx, hat⟩ := h.here
    obtain ⟨catalog, hcat, hrules⟩ := hsilent x t (h.reaches_last hx) hat
    rw [inlined_of_ok (catalog_of_none hcat fields), findSome?_flatMap, faultFrom_eq,
      findSome?_referenceIds, List.map_findSome?]
    refine findSome?_congr fun route hroute => ?_
    cases route with
    | rule r =>
      rw [Route.items]
      by_cases hf : r.isFallback
      · rw [if_pos hf]; rfl
      · rw [if_neg hf, List.findSome?_singleton, Item.verdict, RuleRoute.verdict,
          hrules r hroute (by simpa using hf)]
        rfl
    | reference r =>
      have hid : r.id ∈ t.referenceIds := RouteTable.mem_referenceIds_iff.mpr ⟨r, hroute, rfl⟩
      show (inlinedReference ts path chain fields r).findSome? (Item.verdict response) =
        (faultAt ts path r.id).map fun e => .error (.routing e)
      rw [inlinedReference, faultAt]
      cases hnext : ts.follow path r.id with
      | error e => rfl
      | ok next => exact ih r.id next hnext (h.follow hid hnext)

/-! ### Agreement -/

theorem eq_noFallback_of_fallbackOutcome {t : RouteTable} {response : Response}
    {fields : Option (List Field)} {e : RoutingFault}
    (h : t.fallbackOutcome response fields = .error (.routing e)) :
    e = .brokenTable .noFallback t.formId := by
  rw [RouteTable.fallbackOutcome, t.context_eq] at h
  cases hcat : t.catalog fields with
  | error cause =>
    rw [hcat] at h
    cases h
    exact absurd hcat (unrouted_catalog t fields e)
  | ok catalog =>
    rw [hcat] at h
    replace h : (t.selectFallback ⟨response, catalog⟩).outcome = .error (.routing e) := h
    rw [t.outcome_selectFallback, RouteTable.fallbackVerdict] at h
    cases hr : t.fallback? with
    | none =>
      rw [hr] at h
      cases h
      rfl
    | some r =>
      rw [hr] at h
      refine absurd h ((FailsOnly.map ?_ _).unrouted e)
      split_ifs
      · exact (Condition.ofValues_evaluate _ r.query).map some
      · exact failsOnly_ok none

theorem fallbackOutcome_ne {t : RouteTable} {response : Response} {fields : Option (List Field)}
    {e : RoutingFault} (he : e.ofReferences = true) :
    t.fallbackOutcome response fields ≠ .error (.routing e) := by
  intro h
  rw [eq_noFallback_of_fallbackOutcome h] at he
  cases he

theorem eq_fault_of_verdict {response : Response} {item : Item} {e : RoutingFault}
    (h : item.verdict response = some (.error (.routing e))) : item = .fault (.routing e) := by
  cases item with
  | fault cause => cases h; rfl
  | rule r catalog chain =>
    rw [Item.verdict, RuleRoute.verdict] at h
    have hne := (Condition.ofValues_evaluate ⟨response, catalog⟩ r.query).unrouted e
    rcases hr : (r.query.evaluate ⟨response, catalog⟩).outcome with cause | _ | _
    · rw [hr] at h hne; cases h; exact absurd rfl hne
    · rw [hr] at h; cases h
    · rw [hr] at h; cases h

section
variable {ts : Tables} {root : RouteTable}

theorem checkReferences_eq_error_iff (hself : root.formId ∉ root.referenceIds) {e : RoutingFault} :
    checkReferences ts root = .error e ↔ faultFrom ts [root.formId] root = some e := by
  rw [← errorOf?_eq_some_iff, errorOf?_checkReferences, if_neg hself]

theorem faultFrom_of_checkReferences (hok : checkReferences ts root = .ok ()) :
    faultFrom ts [root.formId] root = none := by
  rw [← errorOf?_eq_none_iff, errorOf?_checkReferences] at hok
  split_ifs at hok
  exact hok

theorem outcome_resolve_root (ts : Tables) (root : RouteTable) (response : Response)
    (fields : Option (List Field)) :
    (resolve root.formId root response ts fields).outcome =
      ((inlined ts [root.formId] [root.formId] root fields).findSome?
        (Item.verdict response)).getD (root.fallbackOutcome response fields) := by
  rw [← decided_walk_entry ts response root fields]
  exact outcome_resolve root.formId root response ts fields

theorem fault_mem_inlined_of_resolve {response : Response} {fields : Option (List Field)}
    {e : RoutingFault} (he : e.ofReferences = true)
    (h : (resolve root.formId root response ts fields).outcome = .error (.routing e)) :
    .fault (.routing e) ∈ inlined ts [root.formId] [root.formId] root fields := by
  rw [outcome_resolve_root] at h
  cases hfirst : (inlined ts [root.formId] [root.formId] root fields).findSome?
      (Item.verdict response) with
  | none =>
    rw [hfirst] at h
    exact absurd h (fallbackOutcome_ne he)
  | some outcome =>
    rw [hfirst] at h
    obtain ⟨item, hitem, hverdict⟩ := List.exists_of_findSome?_eq_some hfirst
    rw [show outcome = .error (.routing e) from h] at hverdict
    rwa [eq_fault_of_verdict hverdict] at hitem

/-- **A table that passed the check is never resolved into a fault of references.** -/
theorem outcome_resolve_ne (hok : checkReferences ts root = .ok ()) (response : Response)
    (fields : Option (List Field)) {e : RoutingFault} (he : e.ofReferences = true) :
    (resolve root.formId root response ts fields).outcome ≠ .error (.routing e) := fun h =>
  not_routing_of_checked (faultFrom_of_checkReferences hok) (fault_mem_inlined_of_resolve he h)

theorem outcome_resolve_of_silent {response : Response}
    (hsilent : ∀ x t, Reaches ts root x → ts.tableAt root x = some t → t.Silent response)
    (fields : Option (List Field)) :
    (resolve root.formId root response ts fields).outcome =
      ((faultFrom ts [root.formId] root).map fun e => .error (.routing e)).getD
        (root.fallbackOutcome response fields) := by
  rw [outcome_resolve_root, findSome?_verdict_of_silent hsilent (trail_root ts root)]

/-- **The check and the resolution agree.** If the table passes the check, no resolution fails at a
reference. If no table that is reached says anything, a resolution fails at a reference just as the
check does, and otherwise selects the fallback of the table, whether its rules hold or not. -/
theorem resolve_agrees_checkReferences (ts : Tables) (root : RouteTable) :
    (checkReferences ts root = .ok () → ∀ response fields e, e.ofReferences = true →
      (resolve root.formId root response ts fields).outcome ≠ .error (.routing e)) ∧
    (root.formId ∉ root.referenceIds → ∀ response fields,
      (∀ x t, Reaches ts root x → ts.tableAt root x = some t → t.Silent response) →
        (∀ e, e.ofReferences = true →
          ((resolve root.formId root response ts fields).outcome = .error (.routing e) ↔
            checkReferences ts root = .error e)) ∧
        ((∀ e, e.ofReferences = true →
          (resolve root.formId root response ts fields).outcome ≠ .error (.routing e)) →
            (resolve root.formId root response ts fields).outcome =
                root.fallbackOutcome response fields ∧
              root.fallbackOutcome response fields =
                root.context response fields >>= root.fallbackVerdict)) := by
  refine ⟨fun hok response fields e he => outcome_resolve_ne hok response fields he, ?_⟩
  intro hself response fields hsilent
  rw [outcome_resolve_of_silent hsilent fields]
  simp only [checkReferences_eq_error_iff hself]
  cases hf : faultFrom ts [root.formId] root with
  | none =>
    exact ⟨fun e he => ⟨fun h => absurd h (fallbackOutcome_ne he), nofun⟩,
      fun _ => ⟨rfl, root.fallbackOutcome_eq response fields⟩⟩
  | some e =>
    have he := (fails_of_faultFrom (trail_root ts root) hf).ofReferences
    refine ⟨fun e' _ => ?_, fun h => absurd rfl (h e he)⟩
    rw [Option.map_some, Option.getD_some]
    simp only [Except.error.injEq, Fault.routing.injEq, Option.some.injEq]

/-- A table that refers to a form without references, and to one that refers back to it. -/
theorem resolve_agrees_two_forms :
    let rule : Route := .rule ⟨"r", ⟨.customMessage, .null⟩, .group .or [], .missing, false⟩
    let a : RouteTable := ⟨"a", [rule, .reference ⟨"b", .null, .null⟩], some []⟩
    let leaf : RouteTable := ⟨"b", [rule], some []⟩
    let back : RouteTable := ⟨"b", [rule, .reference ⟨"a", .null, .null⟩], some []⟩
    (∀ e, e.ofReferences = true →
      (resolve "a" a [] [("b", leaf)] none).outcome ≠ .error (.routing e)) ∧
    (resolve "a" a [] [("b", back)] none).outcome =
      .error (.routing (.cyclic ["a", "b", "a"])) := by
  intro rule a leaf back
  have hself : a.formId ∉ a.referenceIds := by decide
  have hok : checkReferences [("b", leaf)] a = .ok () := by
    rw [← errorOf?_eq_none_iff, errorOf?_checkReferences, if_neg hself]
    simp [a, leaf, rule, faultFrom_eq, faultAt, RouteTable.referenceIds, RouteTable.references,
      Route.reference?, Tables.follow, Tables.get?]
  have herror : checkReferences [("b", back)] a = .error (.cyclic ["a", "b", "a"]) := by
    rw [checkReferences_eq_error_iff hself]
    simp [a, back, rule, faultFrom_eq, faultAt, RouteTable.referenceIds, RouteTable.references,
      List.filterMap_cons, Route.reference?, Tables.follow, Tables.get?]
  have hrule : ∀ t : RouteTable, t = a ∨ t = back → t.Silent [] := by
    rintro t (rfl | rfl)
    all_goals
      refine ⟨[], rfl, fun r hr _ => ?_⟩
      simp only [a, back, rule, List.mem_cons, List.not_mem_nil, or_false, Route.rule.injEq,
        reduceCtorEq] at hr
      subst hr
      rfl
  have hsilent : ∀ x t, Reaches [("b", back)] a x →
      Tables.tableAt [("b", back)] a x = some t → t.Silent [] := by
    intro x t _ hat
    unfold Tables.tableAt at hat
    split_ifs at hat
    · exact hrule t (Or.inl (Option.some.inj hat).symm)
    · obtain ⟨entry, hentry, rfl⟩ := Option.map_eq_some_iff.mp hat
      have hmem := List.mem_singleton.mp (List.mem_of_find?_eq_some hentry)
      exact hrule _ (Or.inr (congrArg Prod.snd hmem))
  exact ⟨fun e he => (resolve_agrees_checkReferences [("b", leaf)] a).1 hok [] none e he,
    (((resolve_agrees_checkReferences [("b", back)] a).2 hself [] none hsilent).1 _ rfl).mpr herror⟩

end

end SubmissionRouting
