import SubmissionRouting.Proofs.Condition.Mentioned
import SubmissionRouting.Proofs.Response.Answers
import SubmissionRouting.Proofs.Routing.Selection
import SubmissionRouting.Proofs.Submission.Catalogs
import SubmissionRouting.Proofs.Submission.Faults
import SubmissionRouting.Proofs.Value.Shown

/-! # Noninterference

What is decided on a submission depends on its response only through the answers to the fields that
are *mentioned* by the conditions of the entry and of the tables that can be reached from it, and on
neither the address nor the hosts nor the settings, the message of a created fallback apart
(`decisions_agree`). The fallback of the entry is selected without regard to its own condition, but
the condition is evaluated, so a fault while a route is selected also depends on the fields that it
mentions.

A fault of the selection only comes up if the response can be put into the types of the form, which
is where answers to fields that nothing mentions still count (`fault_hidden_by_unmentioned`). -/

namespace SubmissionRouting

/-- A condition of the table mentions the field, those of fallbacks left out. -/
def RouteTable.Mentions (t : RouteTable) (x : Value) : Prop :=
  ∃ r, Route.rule r ∈ t.routes ∧ r.isFallback = false ∧ x ∈ r.query.fields

/-! ### What items and fallbacks read -/

theorem RuleRoute.verdict_congr {u w : Response} {r : RuleRoute} (catalog : Mapping Slot)
    (chain : List String) (h : AgreeOn (· ∈ r.query.fields) u.get? w.get?) :
    r.verdict u catalog chain = r.verdict w catalog chain := by
  unfold RuleRoute.verdict
  rw [Condition.outcome_evaluate_congr catalog r.query h]

theorem RouteTable.route_of_fallbackOutcome {t : RouteTable} {response : Response}
    {fields : Option (List Field)} {selection : Selection}
    (h : t.fallbackOutcome response fields = .ok selection) :
    t.fallback? = some selection.route ∧ selection.matchedBy = .fallback ∧
      selection.chain = [t.formId] := by
  unfold RouteTable.fallbackOutcome at h
  obtain ⟨context, -, h⟩ := exists_of_bind_eq_ok h
  exact route_of_selectFallback h

theorem RouteTable.fallbackOutcome_congr {t : RouteTable} {u w : Response}
    (fields : Option (List Field))
    (h : ∀ r, t.fallback? = some r → AgreeOn (· ∈ r.query.fields) u.get? w.get?) :
    t.fallbackOutcome u fields = t.fallbackOutcome w fields := by
  unfold RouteTable.fallbackOutcome
  rw [t.context_eq, t.context_eq]
  cases t.catalog fields with
  | error e => rfl
  | ok catalog =>
    show (t.selectFallback ⟨u, catalog⟩).outcome = (t.selectFallback ⟨w, catalog⟩).outcome
    rw [t.outcome_selectFallback, t.outcome_selectFallback, RouteTable.fallbackVerdict,
      RouteTable.fallbackVerdict]
    cases hr : t.fallback? with
    | none => rfl
    | some r =>
      dsimp only
      rw [Condition.outcome_evaluate_congr catalog r.query (h r hr)]

namespace Submission

/-! ### What a selection reads -/

/-- A table that can be reached from the entry, the entry among them, mentions the field. -/
def Mentions (s : Submission) (x : Value) : Prop :=
  ∃ id t, Reaches (s.tables.getD []) s.entry id ∧
    (s.tables.getD []).tableAt s.entry id = some t ∧ t.Mentions x

/-- The condition of the entry's fallback mentions the field. -/
def FallbackMentions (s : Submission) (x : Value) : Prop :=
  ∃ r, s.entry.fallback? = some r ∧ x ∈ r.query.fields

section
variable {s : Submission} {u w : Response}

theorem mentions_of_mem_items {r : RuleRoute} {catalog : Mapping Slot} {chain : List String}
    (hmem : Item.rule r catalog chain ∈ s.items) {x : Value} (hx : x ∈ r.query.fields) :
    s.Mentions x := by
  obtain ⟨stop, hstop, hroute, hfallback, -⟩ := s.exists_stop_of_mem_items hmem
  have htrail := Stop.trail_of_reached (trail_root (s.tables.getD []) s.entry) hstop
  obtain ⟨id, hid, hat⟩ := htrail.here
  exact ⟨id, stop.table, htrail.reaches_last hid, hat, r, hroute, hfallback, hx⟩

/-- **Responses that agree on the mentioned fields** have the same first item that says anything, and
it says the same. -/
theorem first_verdict_congr (h : AgreeOn s.Mentions u.get? w.get?) :
    s.items.findSome? (Item.verdict u) = s.items.findSome? (Item.verdict w) := by
  refine findSome?_congr fun item hitem => ?_
  cases item with
  | fault e => rfl
  | rule r catalog chain =>
    exact r.verdict_congr catalog chain fun x hx => h x (mentions_of_mem_items hitem hx)

theorem selections_agree (h : AgreeOn s.Mentions u.get? w.get?) {a b : Selection}
    (ha : (s.select u).outcome = .ok a) (hb : (s.select w).outcome = .ok b) :
    a.route = b.route ∧ a.matchedBy = b.matchedBy ∧ a.chain = b.chain := by
  rw [outcome_select, first_verdict_congr h] at ha
  rw [outcome_select] at hb
  cases hfirst : s.items.findSome? (Item.verdict w) with
  | some outcome =>
    rw [hfirst] at ha hb
    have hsame : a = b := Except.ok.inj (ha.symm.trans hb)
    rw [hsame]
    exact ⟨rfl, rfl, rfl⟩
  | none =>
    rw [hfirst] at ha hb
    obtain ⟨hroute, hmatched, hchain⟩ := RouteTable.route_of_fallbackOutcome ha
    obtain ⟨hroute', hmatched', hchain'⟩ := RouteTable.route_of_fallbackOutcome hb
    exact ⟨Option.some.inj (hroute.symm.trans hroute'), hmatched.trans hmatched'.symm,
      hchain.trans hchain'.symm⟩

theorem outcome_select_congr (h : AgreeOn s.Mentions u.get? w.get?)
    (hfallback : AgreeOn s.FallbackMentions u.get? w.get?) :
    (s.select u).outcome = (s.select w).outcome := by
  have hentry : ∀ r, s.entry.fallback? = some r → AgreeOn (· ∈ r.query.fields) u.get? w.get? :=
    fun r hr x hx => hfallback x ⟨r, hr, hx⟩
  rw [outcome_select, outcome_select, first_verdict_congr h,
    RouteTable.fallbackOutcome_congr _ hentry]

end

/-! ### Two submissions -/

/-- The submissions are to the same form, with the same tables and the same fallback if one is
created. -/
structure SharesRouting (s s' : Submission) : Prop where
  form : s.form = s'.form
  tables : s.tables = s'.tables
  freshId : s.freshId = s'.freshId
  message : s.settings.fallbackMessage = s'.settings.fallbackMessage

namespace SharesRouting

variable {s s' : Submission} (h : SharesRouting s s')
include h

theorem entry : s.entry = s'.entry := by
  unfold Submission.entry lacksFallback
  rw [h.form, h.freshId, h.message]

theorem items : s.items = s'.items := by
  unfold Submission.items
  rw [h.entry, h.form, h.tables]

theorem select (response : Response) :
    (s.select response).outcome = (s'.select response).outcome := by
  rw [outcome_select, outcome_select, h.items, h.entry, h.form]

end SharesRouting

/-- Deciding on the submission fails, and does so while a route is selected. -/
structure FailsInRouting (s : Submission) (e : Fault) : Prop where
  fails : s.decide.outcome = .error e
  inRouting : ∃ response, (normalizeResponse s.form.fields s.raw).outcome = .ok response ∧
    (s.select response).outcome = .error e

theorem failsInRouting_of_select {s : Submission} {response : Response} {e : Fault}
    (hresponse : (normalizeResponse s.form.fields s.raw).outcome = .ok response)
    (h : (s.select response).outcome = .error e) : s.FailsInRouting e := by
  refine ⟨?_, response, hresponse, h⟩
  rw [outcome_decide, draft, hresponse]
  show ((s.select response).outcome >>= _) >>= _ = _
  rw [h]
  rfl

/-- **Two responses to one form that agree on what is mentioned** agree on it in the types of the
form. -/
theorem agreeOn_of_normalized {s s' : Submission} (h : SharesRouting s s') {keys : Value → Prop}
    (hagree : AgreeOn keys s.raw.answer? s'.raw.answer?) {u w : Response}
    (hu : (normalizeResponse s.form.fields s.raw).outcome = .ok u)
    (hw : (normalizeResponse s'.form.fields s'.raw).outcome = .ok w) :
    AgreeOn keys u.get? w.get? := by
  rw [← h.form] at hw
  exact fun x hx => get?_eq_of_answer?_eq hu hw (hagree x hx)

/-- **Noninterference.** Let two submissions be to the same form with the same tables, and let their
responses agree on all mentioned fields. Then the decisions that come out of them have the same
action, route, kind of match and chain. If the responses also agree on what the fallback of the entry
mentions, and both can be put into the types of the form, then both fail alike while a route is
selected, or neither does. -/
theorem decisions_agree {s s' : Submission} (h : SharesRouting s s')
    (hagree : AgreeOn s.Mentions s.raw.answer? s'.raw.answer?) :
    (∀ d d', s.Decides d → s'.Decides d' →
      d.action = d'.action ∧ d.routeId = d'.routeId ∧ d.matchedBy = d'.matchedBy ∧
        d.chain = d'.chain) ∧
    (AgreeOn s.FallbackMentions s.raw.answer? s'.raw.answer? →
      ∀ u w, (normalizeResponse s.form.fields s.raw).outcome = .ok u →
        (normalizeResponse s'.form.fields s'.raw).outcome = .ok w →
        ∀ e, s.FailsInRouting e ↔ s'.FailsInRouting e) := by
  constructor
  · intro d d' hd hd'
    obtain ⟨u, a, hdrafted⟩ := exists_drafted (draft_of_decides hd)
    obtain ⟨w, b, hdrafted'⟩ := exists_drafted (draft_of_decides hd')
    have hsame := agreeOn_of_normalized h hagree hdrafted.normalized hdrafted'.normalized
    have hb : (s.select w).outcome = .ok b := (h.select w).trans hdrafted'.selected
    obtain ⟨hroute, hmatched, hchain⟩ := selections_agree hsame hdrafted.selected hb
    rw [hdrafted.action, hdrafted.routeId, hdrafted.matchedBy, hdrafted.chain,
      hdrafted'.action, hdrafted'.routeId, hdrafted'.matchedBy, hdrafted'.chain, hroute]
    exact ⟨rfl, rfl, hmatched, hchain⟩
  · intro hfallback u w hu hw e
    have hmentioned := agreeOn_of_normalized h hagree hu hw
    have hselect : (s.select u).outcome = (s'.select w).outcome := by
      rw [outcome_select_congr hmentioned (agreeOn_of_normalized h hfallback hu hw)]
      exact h.select w
    constructor
    · rintro ⟨-, response, hresponse, he⟩
      have hsame : response = u := Except.ok.inj (hresponse.symm.trans hu)
      rw [hsame, hselect] at he
      exact failsInRouting_of_select hw he
    · rintro ⟨-, response, hresponse, he⟩
      have hsame : response = w := Except.ok.inj (hresponse.symm.trans hw)
      rw [hsame, ← hselect] at he
      exact failsInRouting_of_select hu he

/-! ### Two instances -/

section Instances

/-- A form with the fields `x` and `y` that routes over a table that asks for `x`. -/
def overOneTable (raw : RawResponse) (hosts : Option (List Host)) : Submission where
  form := ⟨"a", .null, .null, [textField "x", textField "y"],
    [.reference ⟨"b", .null, .null⟩, .rule (createdFallback "f" .null)], .null, .null⟩
  raw := raw
  tables := some [("b", ⟨"b", [.rule asksForX], none⟩)]
  hosts := hosts
  freshId := "g"

theorem mentions_overOneTable {raw : RawResponse} {hosts : Option (List Host)} {x : Value}
    (h : (overOneTable raw hosts).Mentions x) : x = .text "x" := by
  obtain ⟨id, t, -, hat, r, hroute, hfallback, hx⟩ := h
  have hrule : r = asksForX := by
    unfold Tables.tableAt at hat
    split_ifs at hat
    · cases hat
      have hroutes : Route.rule r ∈ (overOneTable raw hosts).form.routes := hroute
      simp [overOneTable] at hroutes
      rw [hroutes] at hfallback
      cases hfallback
    · obtain ⟨entry, hentry, rfl⟩ := Option.map_eq_some_iff.mp hat
      have hmem := List.mem_singleton.mp (List.mem_of_find?_eq_some hentry)
      rw [hmem] at hroute
      exact Route.rule.inj (List.mem_singleton.mp hroute)
  rw [hrule] at hx
  exact List.mem_singleton.mp hx

/-- One answer in a mapping, and the same after another one and with hosts. -/
theorem decisions_agree_over_one_table :
    let s := overOneTable (.byField [(.text "x", .text "2")]) none
    let s' := overOneTable (.inTurn [(.text "y", .text "1"), (.text "x", .text "2")]) (some [])
    SharesRouting s s' ∧ AgreeOn s.Mentions s.raw.answer? s'.raw.answer? ∧
      (∀ d d', s.Decides d → s'.Decides d' →
        d.action = d'.action ∧ d.routeId = d'.routeId ∧ d.matchedBy = d'.matchedBy ∧
          d.chain = d'.chain) ∧
      (AgreeOn s.FallbackMentions s.raw.answer? s'.raw.answer? →
        ∀ u w, (normalizeResponse s.form.fields s.raw).outcome = .ok u →
          (normalizeResponse s'.form.fields s'.raw).outcome = .ok w →
          ∀ e, s.FailsInRouting e ↔ s'.FailsInRouting e) := by
  intro s s'
  have hshares : SharesRouting s s' := ⟨rfl, rfl, rfl, rfl⟩
  have hagree : AgreeOn s.Mentions s.raw.answer? s'.raw.answer? := by
    intro x hx
    rw [mentions_overOneTable hx]
    rfl
  exact ⟨hshares, hagree, decisions_agree hshares hagree⟩

/-- A form with a field `c` of one choice that is routed over itself. -/
def overItself (answers : Mapping Value) : Submission where
  form := ⟨"a", .null, .null, [⟨.text "c", .null, .select, .null, []⟩],
    [.reference ⟨"a", .null, .null⟩, .rule (createdFallback "f" .null)], .null, .null⟩
  raw := .byField answers
  tables := some []
  freshId := "g"

/-- A number without a decimal text cannot be put into the type of a field of one choice. -/
theorem normalize_overItself {n : ℕ} (h : Nat.pow 10 Text.digitLimit ≤ n) :
    (normalizeResponse (overItself []).form.fields (overItself [(.text "c", .int n)]).raw).outcome =
      .error (.misuse .tooManyDigits) := by
  let f : Field := ⟨.text "c", .null, .select, .null, []⟩
  have hchoice : (f.choiceId (.int n)).outcome = .error (.misuse .tooManyDigits) := by
    unfold Field.choiceId
    rw [Journaled.outcome_bind, Journaled.outcome_liftM_misuse, Value.shown_of_many_digits h]
    rfl
  have hnormalize : (f.normalize (.int n)).outcome = .error (.misuse .tooManyDigits) := by
    show Journaled.outcome (f.choiceId (.int n) >>= _) = _
    rw [Journaled.outcome_bind, hchoice]
    rfl
  have hadd : (addAnswer [(.text "c", f)] [] (.text "c", .int n)).outcome =
      .error (.misuse .tooManyDigits) := by
    show Journaled.outcome (f.normalize (.int n) >>= _) = _
    rw [Journaled.outcome_bind, hnormalize]
    rfl
  show Journaled.outcome (addAnswer [(.text "c", f)] [] (.text "c", .int n) >>= _) = _
  rw [Journaled.outcome_bind, hadd]
  rfl

/-- **An answer that nothing mentions can hide the fault of a selection.** The form is routed over
itself, and mentions no field; but if the answer to its field has no text, then deciding fails before
a route is selected. -/
theorem fault_hidden_by_unmentioned :
    let s := overItself []
    let s' := overItself [(.text "c", .int (Nat.pow 10 Text.digitLimit : ℤ))]
    SharesRouting s s' ∧ AgreeOn s.Mentions s.raw.answer? s'.raw.answer? ∧
      AgreeOn s.FallbackMentions s.raw.answer? s'.raw.answer? ∧
      s.FailsInRouting (.routing (.cyclic ["a", "a"])) ∧
      ¬ s'.FailsInRouting (.routing (.cyclic ["a", "a"])) := by
  intro s s'
  have hnothing : ∀ x, ¬ s.Mentions x := by
    rintro x ⟨id, t, -, hat, r, hroute, hfallback, -⟩
    unfold Tables.tableAt at hat
    split_ifs at hat
    · cases hat
      have hroutes : Route.rule r ∈ s.form.routes := hroute
      simp [s, overItself] at hroutes
      rw [hroutes] at hfallback
      cases hfallback
    · cases hat
  have hitems : s.items = [.fault (.routing (.cyclic ["a", "a"]))] := by
    have hcycle : Tables.follow [] ["a"] "a" = .error (.cyclic ["a", "a"]) := rfl
    show inlined [] ["a"] ["a"] s.entry (some s.form.fields) = _
    rw [inlined_of_ok rfl]
    show inlinedReference [] ["a"] ["a"] (some s.form.fields) ⟨"a", .null, .null⟩ ++ [] = _
    rw [List.append_nil, inlinedReference, hcycle]
  refine ⟨⟨rfl, rfl, rfl, rfl⟩, fun x hx => absurd hx (hnothing x), ?_, ?_, ?_⟩
  · rintro x ⟨r, hr, hx⟩
    cases hr
    cases hx
  · refine failsInRouting_of_select (rfl : _ = Except.ok []) ?_
    rw [outcome_select, hitems]
    rfl
  · rintro ⟨-, response, hresponse, -⟩
    have hfault := normalize_overItself (le_refl (Nat.pow 10 Text.digitLimit))
    cases hfault.symm.trans hresponse

end Instances

end Submission

end SubmissionRouting
