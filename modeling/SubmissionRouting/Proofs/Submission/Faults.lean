import SubmissionRouting.Proofs.Submission.Draft
import SubmissionRouting.Proofs.Submission.Entry
import SubmissionRouting.Proofs.Table.Repair

/-! # The faults of a decision

Putting a response into the types of a form and filtering hosts fail only with the fault of a value
or of a condition, and a selection besides with a fault of references (`ofSelection_selectFrom`):
the entry of a submission has a fallback (`exists_fallback`), and every table on the way from it has
fields to type the answers with (`exists_fields`). So a draft never fails for want of a host, and
whatever decision comes out of a submission, returned or carried by the fault that no host remains,
is its draft (`draft_of_decides`); and a decision never fails because a table is broken or has no
catalog (`decide_never_broken`). -/

namespace SubmissionRouting

/-! ### Responses and hosts -/

namespace Field

variable (f : Field)

theorem ofValues_choiceId (answer : Value) :
    FailsOnly Fault.OfValues (f.choiceId answer).outcome := by
  unfold choiceId
  rw [Journaled.outcome_bind]
  refine (ofValues_orFault answer.shown).bind fun s _ => ?_
  cases f.slot.choice? s with
  | some c => exact failsOnly_ok c.id
  | none =>
    show FailsOnly _ (Journaled.outcome (_ >>= fun _ => pure s))
    rw [Journaled.outcome_bind, Journaled.outcome_note]
    exact failsOnly_ok s

theorem ofValues_choiceIds (answers : List Value) :
    FailsOnly Fault.OfValues (f.choiceIds answers).outcome := by
  unfold choiceIds
  rw [Journaled.outcome_mapM]
  exact failsOnly_mapM fun answer _ => f.ofValues_choiceId answer

theorem ofValues_normalize (answer : Value) :
    FailsOnly Fault.OfValues (f.normalize answer).outcome := by
  unfold normalize
  split
  · exact failsOnly_ok _
  split
  · rw [Journaled.outcome_bind]
    exact (f.ofValues_choiceIds _).bind fun ids _ => failsOnly_ok _
  split
  · extract_lets one
    split
    · exact failsOnly_ok one
    · rw [Journaled.outcome_bind]
      exact (f.ofValues_choiceId one).bind fun id _ => failsOnly_ok _
  split
  · cases answer <;> exact failsOnly_ok _
  · cases answer.sequence? <;> exact failsOnly_ok _

end Field

theorem ofValues_addAnswer (catalog : Mapping Field) (response : Response)
    (answer : Value × Value) :
    FailsOnly Fault.OfValues (addAnswer catalog response answer).outcome := by
  unfold addAnswer
  rw [Journaled.outcome_bind]
  refine (ofValues_orFault answer.1.asKey).bind fun id _ => ?_
  cases catalog.get? id with
  | none =>
    show FailsOnly _ (Journaled.outcome (_ >>= fun _ => pure response))
    rw [Journaled.outcome_bind, Journaled.outcome_note]
    exact failsOnly_ok response
  | some f =>
    show FailsOnly _ (Journaled.outcome (_ >>= fun value => pure (response.put id value)))
    rw [Journaled.outcome_bind]
    exact (f.ofValues_normalize answer.2).bind fun value _ => failsOnly_ok _

theorem ofValues_normalizeResponse (fields : List Field) (raw : RawResponse) :
    FailsOnly Fault.OfValues (normalizeResponse fields raw).outcome := by
  unfold normalizeResponse
  rw [Journaled.outcome_bind]
  refine (ofValues_orFault (fieldsById fields)).bind fun catalog _ => ?_
  rw [Journaled.outcome_bind]
  refine (ofValues_orFault raw.answers).bind fun answers _ => ?_
  rw [Journaled.outcome_foldlM]
  exact failsOnly_foldlM (ofValues_addAnswer catalog) answers []

theorem ofValues_addSatisfying (attributes : List Attribute) (query : Condition)
    (ids : List Value) (h : Host) :
    FailsOnly Fault.OfValues (addSatisfying attributes query ids h).outcome := by
  unfold addSatisfying Host.satisfies
  simp only [Journaled.outcome_bind, Journaled.outcome_liftM_misuse]
  refine FailsOnly.bind ((ofValues_orFault _).bind fun catalog _ =>
    Condition.ofValues_evaluate _ query) fun verdict _ => ?_
  cases verdict with
  | false => exact failsOnly_ok ids
  | true =>
    show FailsOnly _ (Journaled.outcome (liftM h.id.asKey >>= fun id : Value =>
      pure (if id.isIn ids then ids else ids ++ [id])))
    rw [Journaled.outcome_bind]
    exact (ofValues_orFault h.id.asKey).bind fun id _ => failsOnly_ok _

/-! ### Selections -/

/-- The fault of a value, of a condition or of references. -/
def Fault.OfSelection : Fault → Prop
  | routing e => e.ofReferences = true
  | cause => cause.OfValues

theorem Fault.OfValues.ofSelection {cause : Fault} (h : cause.OfValues) : cause.OfSelection := by
  cases cause with
  | misuse | missingCondition => trivial
  | _ => exact False.elim h

theorem FailsOnly.ofSelection {α : Type} {x : Result α} (h : FailsOnly Fault.OfValues x) :
    FailsOnly Fault.OfSelection x := h.mono fun _ hcause => hcause.ofSelection

namespace Submission

variable (s : Submission)

theorem ofValues_eligibleHosts (r : RuleRoute) :
    FailsOnly Fault.OfValues (s.eligibleHosts r).outcome := by
  unfold eligibleHosts
  cases s.hosts with
  | none => exact failsOnly_ok none
  | some hosts =>
    dsimp only
    split
    · show FailsOnly _ (Journaled.outcome (filterHosts _ hosts s.attributes >>= fun ids =>
        pure (some ids)))
      rw [Journaled.outcome_bind, filterHosts, Journaled.outcome_bind, Journaled.outcome_foldlM]
      refine FailsOnly.bind ?_ fun ids _ => failsOnly_ok (some ids)
      exact (failsOnly_foldlM (ofValues_addSatisfying _ _) hosts []).bind fun ids _ =>
        failsOnly_ok ids
    · exact failsOnly_ok none

theorem exists_fallback : ∃ r, s.entry.fallback? = some r := by
  unfold entry
  by_cases hlacks : s.lacksFallback = true
  · have hnone : s.form.table.fallback? = none := Option.isNone_iff_eq_none.mp hlacks
    have hroutes : s.form.routes.findSome? Route.fallback? = none := hnone
    rw [if_pos hlacks, RouteTable.withFallback_of_none hnone]
    refine ⟨createdFallback s.freshId s.settings.fallbackMessage, ?_⟩
    show (s.form.routes ++ [_]).findSome? Route.fallback? = _
    rw [List.findSome?_append, hroutes]
    rfl
  · rw [if_neg hlacks]
    exact Option.ne_none_iff_exists'.mp fun hnone => hlacks (Option.isNone_iff_eq_none.mpr hnone)

/-- **Every stop on the way from the entry has fields**, its own or those that it is left with. -/
theorem exists_fields {stop : Stop} (h : Stop.Reached (s.tables.getD []) s.start stop) :
    ∃ fields, stop.table.fields.or stop.fields = some fields := by
  obtain ⟨ids, -, hfields⟩ := Stop.fields_of_reached h
  have hstart : s.start.fields = some s.form.fields := rfl
  rw [hfields, hstart]
  cases stop.table.fields with
  | some own => exact ⟨own, rfl⟩
  | none =>
    cases (ids.filterMap (Stop.ownFields? (s.tables.getD []))).getLast? with
    | some nearest => exact ⟨nearest, rfl⟩
    | none => exact ⟨s.form.fields, rfl⟩

theorem ofValues_catalog {t : RouteTable} {given : Option (List Field)}
    (h : ∃ fields, t.fields.or given = some fields) :
    FailsOnly Fault.OfValues (t.catalog given) := by
  obtain ⟨fields, hfields⟩ := h
  unfold RouteTable.catalog
  rw [hfields]
  exact ofValues_orFault _

/-- **A fault among the items** is that of a value or of references. -/
theorem ofSelection_of_mem_items {cause : Fault} (hmem : Item.fault cause ∈ s.items) :
    cause.OfSelection := by
  rcases s.mem_items_cases hmem with ⟨id, heq⟩ | ⟨stop, hstop, hgives⟩
  · cases heq
    rfl
  · cases hgives with
    | catalog missing => exact (ofValues_catalog (s.exists_fields hstop) _ missing).ofSelection
    | reference refers failed => exact Tables.ofReferences_of_follow failed

theorem ofSelection_fallbackOutcome (response : Response) :
    FailsOnly Fault.OfSelection (s.entry.fallbackOutcome response (some s.form.fields)) := by
  obtain ⟨r, hr⟩ := s.exists_fallback
  have hfields : s.entry.fields.or (some s.form.fields) = some s.form.fields := by
    rw [s.entry_fields]
    rfl
  have hcatalog := ofValues_catalog ⟨s.form.fields, hfields⟩
  refine FailsOnly.ofSelection ?_
  rw [RouteTable.fallbackOutcome, RouteTable.context_eq]
  refine (hcatalog.map _).bind fun context _ => ?_
  rw [RouteTable.outcome_selectFallback, RouteTable.fallbackVerdict, hr]
  refine FailsOnly.map ?_ _
  split
  · exact (Condition.ofValues_evaluate context r.query).map some
  · exact failsOnly_ok none

theorem ofSelection_selectFrom (response : Response) :
    FailsOnly Fault.OfSelection (s.selectFrom s.entry response).outcome := by
  intro cause h
  rw [outcome_selectFrom] at h
  cases hfirst : s.items.findSome? (Item.verdict response) with
  | none =>
    rw [hfirst] at h
    exact s.ofSelection_fallbackOutcome response cause h
  | some outcome =>
    rw [hfirst] at h
    obtain ⟨item, hitem, hverdict⟩ := List.exists_of_findSome?_eq_some hfirst
    rw [show outcome = .error cause from h] at hverdict
    cases item with
    | fault cause' =>
      cases hverdict
      exact s.ofSelection_of_mem_items hitem
    | rule r catalog chain =>
      have hevaluate := Condition.ofValues_evaluate ⟨response, catalog⟩ r.query
      rw [Item.verdict, RuleRoute.verdict] at hverdict
      rcases hr : (r.query.evaluate ⟨response, catalog⟩).outcome with cause' | _ | _
      · rw [hr] at hverdict hevaluate
        cases hverdict
        exact (hevaluate cause rfl).ofSelection
      · rw [hr] at hverdict; cases hverdict
      · rw [hr] at hverdict; cases hverdict

theorem outcome_select_eq (response : Response) :
    (s.select response).outcome = (s.selectFrom s.entry response).outcome := by
  rw [outcome_select, outcome_selectFrom]

/-! ### Decisions -/

theorem ofSelection_draft : FailsOnly Fault.OfSelection s.draft := by
  unfold draft
  refine (ofValues_normalizeResponse _ _).ofSelection.bind fun response _ => ?_
  rw [outcome_select_eq]
  refine (s.ofSelection_selectFrom response).bind fun selection _ => ?_
  refine (s.ofValues_eligibleHosts selection.route).ofSelection.bind fun hosts _ => ?_
  exact (ofValues_orFault _).ofSelection.bind fun parameters _ => failsOnly_ok _

variable {s}

/-- The decision comes out of the submission: it is returned, or carried by the fault that no host
remains. -/
def Decides (s : Submission) (d : Decision) : Prop :=
  s.decide.outcome = .ok d ∨ s.decide.outcome = .error (.routing (.noEligibleHost d))

theorem draft_ne_noEligibleHost (d : Decision) :
    s.draft ≠ .error (.routing (.noEligibleHost d)) := by
  intro h
  cases s.ofSelection_draft _ h

theorem draft_of_decides {d : Decision} (h : s.Decides d) : s.draft = .ok d := by
  unfold Decides at h
  rw [outcome_decide] at h
  cases hdraft : s.draft with
  | error e =>
    rw [hdraft] at h
    rcases h with h | h
    · cases h
    · cases h
      exact absurd hdraft (draft_ne_noEligibleHost d)
  | ok d' =>
    rw [hdraft] at h
    replace h : s.conclude d' = .ok d ∨ s.conclude d' = .error (.routing (.noEligibleHost d)) := h
    unfold conclude at h
    split at h
    · rcases h with h | h <;> cases h
      rfl
    · rcases h with h | h <;> cases h
      rfl

/-! ### Faults of decisions -/

variable (s)

/-- The fault of a selection, or that no host remains. -/
def OfDecision (cause : Fault) : Prop :=
  cause.OfSelection ∨ ∃ d, cause = .routing (.noEligibleHost d)

theorem ofDecision_decide : FailsOnly OfDecision s.decide.outcome := by
  rw [outcome_decide]
  refine (s.ofSelection_draft.mono fun cause h => Or.inl h).bind fun d _ => ?_
  unfold conclude
  split
  · exact failsOnly_error (Or.inr ⟨d, rfl⟩)
  · exact failsOnly_ok d

/-- Also under an id that is no text a table is selected from first. -/
theorem ofDecision_decideFor (id : Value) : FailsOnly OfDecision (s.decideFor id).outcome := by
  have hother : FailsOnly Fault.OfSelection (Journaled.outcome (do
      let response ← normalizeResponse s.form.fields s.raw
      let t ← s.table
      let _ ← s.recorded (s.selectFrom t response)
      Journaled.fail (.misuse .notText) : Journaled Decision)) := by
    rw [Journaled.outcome_bind]
    refine (ofValues_normalizeResponse _ _).ofSelection.bind fun response _ => ?_
    rw [Journaled.outcome_bind, outcome_table]
    refine FailsOnly.bind (failsOnly_ok s.entry) fun t ht => ?_
    cases ht
    rw [Journaled.outcome_bind, outcome_recorded]
    exact (s.ofSelection_selectFrom response).bind fun selection _ => failsOnly_error trivial
  cases id with
  | text => exact s.ofDecision_decide
  | _ => exact hother.mono fun cause h => Or.inl h

/-- **Deciding never fails because a table is broken or has no catalog.** The table that a
submission is routed from has a fallback, every table on the way from it has fields to type the
answers with, and no fault of the decision is that of a broken table, of a reference to the form
itself or of a missing catalog, whatever the id is under which the form is known. -/
theorem decide_never_broken :
    (∃ t r, s.table.outcome = .ok t ∧ t.fallback? = some r) ∧
    (∀ stop, Stop.Reached (s.tables.getD []) s.start stop →
      ∃ fields, stop.table.fields.or stop.fields = some fields) ∧
    ∀ cause, (s.decide.outcome = .error cause ∨ ∃ id, (s.decideFor id).outcome = .error cause) →
      (∀ broken formId, cause ≠ .routing (.brokenTable broken formId)) ∧
      (∀ formId, cause ≠ .routing (.selfReference formId)) ∧
      ∀ formId, cause ≠ .noCatalog formId := by
  obtain ⟨r, hr⟩ := s.exists_fallback
  refine ⟨⟨s.entry, r, s.outcome_table, hr⟩, fun stop => s.exists_fields, fun cause h => ?_⟩
  have hcause : OfDecision cause := by
    rcases h with h | ⟨id, h⟩
    · exact s.ofDecision_decide cause h
    · exact s.ofDecision_decideFor id cause h
  rcases hcause with hselection | ⟨d, rfl⟩
  · refine ⟨fun broken formId heq => ?_, fun formId heq => ?_, fun formId heq => ?_⟩
    all_goals
      subst heq
      cases hselection
  · exact ⟨nofun, nofun, nofun⟩

end Submission

end SubmissionRouting
