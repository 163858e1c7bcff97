import SubmissionRouting.Proofs.Routing.Agreement
import SubmissionRouting.Proofs.Routing.Stops
import SubmissionRouting.Routing.Submission

/-! # The entry of a submission

A submission is routed from the table of its form, its *entry*, which is given a fallback if it has
none. What is selected is what the first of the submission's *items* comes to that says anything, or
else the fallback (`outcome_select`): the items are those of the entry, with the tables that are
stored. If no tables can be had, the first reference is a fault before anything is evaluated.

Every item is given by a stop on the way from the entry (`mem_items_cases`). -/

namespace SubmissionRouting

/-! ### Tables without references -/

theorem firstMatch_of_no_references {formId : String} {context : Context} {routes : List Route}
    (h : ∀ r, Route.reference r ∉ routes)
    (f g : RouterReference → Journaled (Option Selection)) :
    firstMatch formId context f routes = firstMatch formId context g routes := by
  induction routes with
  | nil => rfl
  | cons route routes ih =>
    have hrest := ih fun r hr => h r (List.mem_cons_of_mem route hr)
    cases route with
    | reference r => exact absurd List.mem_cons_self (h r)
    | rule r => rw [firstMatch, firstMatch, hrest]

namespace RouteTable

theorem not_mem_of_references_eq_nil {t : RouteTable} (h : t.references = []) (r : RouterReference) :
    Route.reference r ∉ t.routes := by
  intro hr
  have hid : r.id ∈ t.referenceIds := mem_referenceIds_iff.mpr ⟨r, hr, rfl⟩
  rw [referenceIds, h] at hid
  cases hid

theorem outcome_select_of_no_references {t : RouteTable} (h : t.references = [])
    (response : Response) (fields : Option (List Field)) :
    (t.select response fields).outcome = (resolve t.formId t response [] fields).outcome := by
  have hfirst (context : Context) : firstMatch t.formId context (fun _ => pure none) t.routes =
      firstMatch t.formId context (followReference [] response [t.formId] t fields) t.routes :=
    firstMatch_of_no_references (not_mem_of_references_eq_nil h) _ _
  have hresolve := outcome_resolve t.formId t response [] fields
  rw [hresolve, walk_eq, select, Journaled.outcome_bind, Journaled.outcome_bind,
    Journaled.outcome_liftM, fallbackOutcome]
  cases t.context response fields with
  | error e => rfl
  | ok context =>
    show (Journaled.outcome (firstMatch t.formId context _ t.routes >>= _)) = _
    rw [Journaled.outcome_bind, hfirst]
    show _ = (decided (firstMatch t.formId context _ t.routes).outcome).getD _
    rcases (firstMatch t.formId context
      (followReference [] response [t.formId] t fields) t.routes).outcome with e | _ | _ <;> rfl

end RouteTable

/-! ### The entry -/

namespace Submission

/-- The table that a submission is routed from. -/
def entry (s : Submission) : RouteTable :=
  if s.lacksFallback then s.form.table.withFallback s.freshId s.settings.fallbackMessage
  else s.form.table

section
variable (s : Submission)

theorem outcome_table : s.table.outcome = .ok s.entry := by
  unfold table entry
  split <;> rfl

theorem entry_formId : s.entry.formId = s.form.id := by
  unfold entry
  split
  · rw [RouteTable.formId_withFallback]
    rfl
  · rfl

theorem entry_fields : s.entry.fields = some s.form.fields := by
  unfold entry
  split
  · rw [RouteTable.fields_withFallback]
    rfl
  · rfl

/-- The items that a response is tried on. -/
def items : List Item :=
  match s.tables, s.entry.references with
  | none, r :: _ => [.fault (.routing (.formNotFound r.id))]
  | none, [] => inlined [] [s.entry.formId] [s.entry.formId] s.entry (some s.form.fields)
  | some ts, _ => inlined ts [s.entry.formId] [s.entry.formId] s.entry (some s.form.fields)

theorem outcome_recorded (selection : Journaled Selection) :
    (s.recorded selection).outcome = selection.outcome := by
  unfold recorded
  split <;> rfl

theorem context_entry (response : Response) (fields : Option (List Field)) :
    s.entry.context response fields = s.entry.context response (some s.form.fields) := by
  unfold RouteTable.context
  rw [s.entry_fields]
  rfl

theorem outcome_selectFrom (response : Response) :
    (s.selectFrom s.entry response).outcome =
      (s.items.findSome? (Item.verdict response)).getD
        (s.entry.fallbackOutcome response (some s.form.fields)) := by
  unfold selectFrom items
  rw [← s.entry_formId]
  cases s.tables with
  | some ts => exact outcome_resolve_root ts s.entry response (some s.form.fields)
  | none =>
    cases href : s.entry.references with
    | cons r _ => rfl
    | nil =>
      have hgiven : s.entry.select response none =
          s.entry.select response (some s.form.fields) := by
        unfold RouteTable.select
        rw [s.context_entry]
      show (s.entry.select response none).outcome = _
      rw [hgiven, RouteTable.outcome_select_of_no_references href]
      exact outcome_resolve_root [] s.entry response (some s.form.fields)

/-- **What is selected** is what the first item comes to that says anything, or else the fallback. -/
theorem outcome_select (response : Response) :
    (s.select response).outcome =
      (s.items.findSome? (Item.verdict response)).getD
        (s.entry.fallbackOutcome response (some s.form.fields)) := by
  rw [← outcome_selectFrom, select, Journaled.outcome_bind, outcome_table]
  show Journaled.outcome _ = _
  rw [Journaled.outcome_bind, outcome_recorded]
  cases (s.selectFrom s.entry response).outcome <;> rfl

/-- The first stop of a submission. -/
def start : Stop := ⟨[s.entry.formId], s.entry, some s.form.fields⟩

/-- **Every item is given by a stop** on the way from the entry, unless no tables can be had. -/
theorem mem_items_cases {item : Item} (hmem : item ∈ s.items) :
    (∃ id, item = .fault (.routing (.formNotFound id))) ∨
      ∃ stop, Stop.Reached (s.tables.getD []) s.start stop ∧ stop.Gives (s.tables.getD []) item := by
  unfold items at hmem
  cases htables : s.tables with
  | some ts =>
    rw [htables] at hmem
    exact Or.inr (exists_stop_of_mem_inlined hmem)
  | none =>
    rw [htables] at hmem
    cases href : s.entry.references with
    | cons r _ =>
      rw [href, List.mem_singleton] at hmem
      exact Or.inl ⟨r.id, hmem⟩
    | nil =>
      rw [href] at hmem
      exact Or.inr (exists_stop_of_mem_inlined hmem)

/-- Every rule among the items comes from a stop on the way from the entry. -/
theorem exists_stop_of_mem_items {r : RuleRoute} {catalog : Mapping Slot} {chain : List String}
    (hmem : Item.rule r catalog chain ∈ s.items) :
    ∃ stop, Stop.Reached (s.tables.getD []) s.start stop ∧ Route.rule r ∈ stop.table.routes ∧
      r.isFallback = false ∧ stop.table.catalog stop.fields = .ok catalog := by
  rcases s.mem_items_cases hmem with ⟨id, heq⟩ | ⟨stop, hstop, hgives⟩
  · cases heq
  · obtain ⟨route, active, found⟩ := hgives
    exact ⟨stop, hstop, route, active, found⟩

end

end Submission

end SubmissionRouting
