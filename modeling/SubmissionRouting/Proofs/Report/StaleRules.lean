import SubmissionRouting.Proofs.Form.FieldIds
import SubmissionRouting.Proofs.Form.RoundTrip
import SubmissionRouting.Proofs.Report.Findings
import SubmissionRouting.Proofs.Value.Filling

/-! # Reports on stale rules

A rule is stale if no field has the id that it is on, as the field was deleted (`Form.Stale`). A report
tells of the ids of all stale rules in queries, each once and in order, and warns of just these
(`Form.TellsStale`). Ids are kept as they stand in a payload, where a field may be numbered instead of
named. They are told as texts, so a stale rule on a numbered field leaves no report at all
(`Form.report_of_stale_rules`). -/

namespace SubmissionRouting

namespace Value

/-! ### Ids of fields -/

/-- A text or a whole number. -/
def IsFieldId : Value → Prop
  | text _ | int _ => True
  | _ => False

theorem IsFieldId.isScalar {v : Value} (h : v.IsFieldId) : v.IsScalar := by
  cases v with
  | text s => exact ⟨_, rfl⟩
  | int n => exact ⟨_, rfl⟩
  | _ => exact h.elim

theorem IsFieldId.isJson {v : Value} (h : v.IsFieldId) : v.IsJson := by
  cases v with
  | text s => exact .text s
  | int n => exact .int n
  | _ => exact h.elim

theorem IsFieldId.alike_iff {v w : Value} (hv : v.IsFieldId) (hw : w.IsFieldId) :
    alike v w = true ↔ v = w := by
  rw [hv.isScalar.alike_iff]
  cases v with
  | text s | int n =>
    cases w with
    | text t | int m => simp [scalarKey?]
    | _ => exact hw.elim
  | _ => exact hv.elim

theorem IsFieldId.isIn_iff {v : Value} {vs : List Value} (hv : v.IsFieldId)
    (hvs : ∀ w ∈ vs, w.IsFieldId) : v.isIn vs = true ↔ v ∈ vs := by
  rw [Value.isIn_iff]
  constructor
  · rintro ⟨w, hw, hwv⟩
    rwa [← ((hvs w hw).alike_iff hv).mp hwv]
  · exact fun h => ⟨v, h, (hv.alike_iff hv).mpr rfl⟩

/-! ### Texts among values -/

section
variable {vs : List Value}

theorem failsOnly_textsOf (vs : List Value) : FailsOnly (· = Misuse.notText) (textsOf vs) := by
  unfold textsOf
  refine failsOnly_mapM fun v _ => ?_
  cases v with
  | text s => exact failsOnly_ok s
  | _ => exact failsOnly_error rfl

theorem exists_textsOf_iff :
    (∃ texts, textsOf vs = .ok texts) ↔ ∀ v ∈ vs, ∃ s, v = text s := by
  unfold textsOf
  rw [exists_ok_mapM_iff]
  refine forall₂_congr fun v _ => ?_
  cases v <;> simp

theorem mem_textsOf_iff {texts : List String} (h : textsOf vs = .ok texts) {s : String} :
    s ∈ texts ↔ text s ∈ vs := by
  have hsame := exists_mem_iff_of_forall₂ (P := fun v => v = text s) (Q := fun t => t = s)
    (forall₂_of_mapM h) fun v _ t ht => by cases v <;> simp_all
  simpa using hsame.symm

end

end Value

/-- **The warning of stale rules** lists all their fields; without them there is none. -/
theorem Report.mem_warnings_unknown_iff {r : Report} {s : String} :
    "Rules reference unknown fields: " ++ s ∈ r.warnings ↔
      r.danglingFields ≠ [] ∧ s = listed r.danglingFields := by
  -- no other warning has these first two letters
  have hother {t : String} (ht : t.toList.take 2 ≠ ['R', 'u']) :
      "Rules reference unknown fields: " ++ s ∉ [t] := by
    rw [List.mem_singleton]
    rintro rfl
    simp at ht
  have hwhen (p : Prop) [Decidable p] {t : String} (ht : t.toList.take 2 ≠ ['R', 'u']) :
      "Rules reference unknown fields: " ++ s ∉ if p then [] else [t] := by
    split_ifs
    · exact List.not_mem_nil
    · exact hother ht
  have hunless (p : Prop) [Decidable p] {t : String} (ht : t.toList.take 2 ≠ ['R', 'u']) :
      "Rules reference unknown fields: " ++ s ∉ if p then [t] else [] := by
    split_ifs
    · exact hother ht
    · exact List.not_mem_nil
  have hfallback : "Rules reference unknown fields: " ++ s ∉ r.fallbackWarning := by
    unfold fallbackWarning
    split_ifs
    · exact hother (by simp)
    · exact hother (by simp)
    · exact hother (by simp)
    · exact List.not_mem_nil
  unfold warnings
  simp only [List.mem_append]
  rw [or_iff_left (hunless _ (by simp)), or_iff_left (hunless _ (by simp)),
    or_iff_left (hwhen _ (by simp)), or_iff_left (hwhen _ (by simp)), or_iff_right hfallback]
  cases r.danglingFields <;> simp

namespace Form

variable {f : Form} {r : Report} {id : Value}

/-! ### Stale rules -/

/-- A rule in the query of a route is on this id, and no field of the form has it. -/
def Stale (f : Form) (id : Value) : Prop := f.HasRuleOn id ∧ ¬ f.HasField id

theorem mem_ruleIds_iff : id ∈ f.rules.map Rule.field ↔ f.HasRuleOn id := by
  unfold rules HasRuleOn Route.QueryOn
  simp only [List.mem_map, List.mem_flatMap]
  constructor
  · rintro ⟨x, ⟨route, hroute, hx⟩, rfl⟩
    cases route with
    | reference _ => cases hx
    | rule r => exact ⟨_, hroute, r, rfl, List.mem_map_of_mem hx⟩
  · rintro ⟨_, hroute, r, rfl, hid⟩
    obtain ⟨x, hx, rfl⟩ := List.mem_map.mp hid
    exact ⟨x, ⟨_, hroute, hx⟩, rfl⟩

/-- **The dangling ids** are those of the stale rules. -/
theorem exists_danglingIds (hfields : ∀ id, f.HasField id → id.IsFieldId)
    (hrules : ∀ id, f.HasRuleOn id → id.IsFieldId) :
    ∃ ids, f.danglingIds = .ok ids ∧ ∀ id, id ∈ ids ↔ f.Stale id := by
  have hfieldIds : ∀ id ∈ f.fields.map Field.id, id.IsFieldId := fun id hid =>
    hfields id (List.mem_map.mp hid)
  have hknown : (f.fields.mapM fun x => x.id.asKey) = .ok (f.fields.map Field.id) :=
    mapM_eq_ok_map fun x hx =>
      Value.asKey_of_isKey (hfieldIds _ (List.mem_map_of_mem hx)).isScalar.isKey
  have hused : (f.rules.mapM fun x => x.field.asKey) = .ok (f.rules.map Rule.field) :=
    mapM_eq_ok_map fun x hx =>
      Value.asKey_of_isKey (hrules _ (mem_ruleIds_iff.mp (List.mem_map_of_mem hx))).isScalar.isKey
  unfold danglingIds
  rw [hknown, ok_bind, hused, ok_bind]
  have hunknown : ∀ id, id ∈ unknownIds (f.fields.map Field.id) f.rules ↔ f.Stale id := by
    intro id
    rw [unknownIds, List.mem_filter, mem_ruleIds_iff]
    refine and_congr_right fun hid => ?_
    rw [Bool.not_eq_true', Bool.eq_false_iff, Ne, (hrules id hid).isIn_iff hfieldIds, List.mem_map]
    exact Iff.rfl
  refine ⟨_, rfl, fun id => ?_⟩
  rw [← hunknown]
  refine ⟨Value.mem_of_mem_distinct, fun hid => ?_⟩
  have hkinds : ∀ id ∈ unknownIds (f.fields.map Field.id) f.rules, id.IsFieldId :=
    fun id hid => hrules id ((hunknown id).mp hid).1
  exact ((hkinds id hid).isIn_iff fun v hv => hkinds v (Value.mem_of_mem_distinct hv)).mp
    (Value.isIn_distinct (hkinds id hid).isScalar.isKey hid)

/-- What a report says of the stale rules of a form. -/
structure TellsStale (f : Form) (r : Report) : Prop where
  ids : ∀ id, f.Stale id ↔ ∃ s ∈ r.danglingFields, id = .text s
  inOrder : r.danglingFields.Pairwise (· < ·)
  warning : ∀ s, "Rules reference unknown fields: " ++ s ∈ r.warnings ↔
    (∃ id, f.Stale id) ∧ s = Report.listed r.danglingFields

theorem TellsStale.mem_danglingFields (h : f.TellsStale r) {s : String} :
    s ∈ r.danglingFields ↔ f.Stale (.text s) := by
  rw [h.ids]
  simp

theorem tellsStale_of_textsOf {ids : List Value} (hids : ∀ id, id ∈ ids ↔ f.Stale id)
    {texts : List String} (htexts : Value.textsOf ids = .ok texts)
    (hr : r.danglingFields = sortedTexts texts) : f.TellsStale r := by
  have htold (id : Value) : f.Stale id ↔ ∃ s ∈ r.danglingFields, id = .text s := by
    simp only [hr, mem_sortedTexts, Value.mem_textsOf_iff htexts]
    refine ⟨fun hstale => ?_, fun ⟨s, hs, hid⟩ => (hids id).mp (hid ▸ hs)⟩
    have hid := (hids id).mpr hstale
    obtain ⟨s, rfl⟩ := Value.exists_textsOf_iff.mp ⟨texts, htexts⟩ id hid
    exact ⟨s, hid, rfl⟩
  refine ⟨htold, hr ▸ pairwise_sortedTexts texts, fun s => ?_⟩
  rw [Report.mem_warnings_unknown_iff]
  refine and_congr_left fun _ => ⟨fun hsome => ?_, fun ⟨id, hid⟩ => ?_⟩
  · obtain ⟨s, hs⟩ := List.exists_mem_of_ne_nil _ hsome
    exact ⟨.text s, (htold _).mpr ⟨s, hs, rfl⟩⟩
  · obtain ⟨s, hs, -⟩ := (htold id).mp hid
    exact List.ne_nil_of_mem hs

/-- **There is a report** on a form unless a stale rule is on a number, and it tells of the stale
rules. -/
theorem report_cases (hfields : ∀ id, f.HasField id → id.IsFieldId)
    (hrules : ∀ id, f.HasRuleOn id → id.IsFieldId) :
    ((∀ n, ¬ f.Stale (.int n)) → ∃ r, f.report = .ok r ∧ f.TellsStale r) ∧
      ((∃ n, f.Stale (.int n)) → f.report = .error .notText) := by
  obtain ⟨ids, hdangling, hids⟩ := exists_danglingIds hfields hrules
  rw [report_eq, hdangling, ok_bind]
  refine ⟨fun hnone => ?_, fun ⟨n, hn⟩ => ?_⟩
  · have htext : ∀ id ∈ ids, ∃ s, id = .text s := by
      intro id hid
      have hstale := (hids id).mp hid
      have hkind := hrules id hstale.1
      cases id with
      | text s => exact ⟨s, rfl⟩
      | int n => exact absurd hstale (hnone n)
      | _ => exact hkind.elim
    obtain ⟨texts, htexts⟩ := Value.exists_textsOf_iff.mpr htext
    rw [htexts, ok_bind]
    exact ⟨_, rfl, tellsStale_of_textsOf hids htexts rfl⟩
  · have hfails : Value.textsOf ids = .error .notText := by
      refine eq_error_of_failsOnly (Value.failsOnly_textsOf ids) fun texts htexts => ?_
      obtain ⟨s, hs⟩ := Value.exists_textsOf_iff.mp ⟨texts, htexts⟩ _ ((hids _).mpr hn)
      cases hs
    rw [hfails]
    rfl

/-! ### Reports on forms that are read -/

/-- **A report tells of stale rules**, whatever JSON value the form is read from, if ids of fields are
texts or whole numbers there: of exactly those ids that a rule in the query of a route is on and no
field has, each once and in order, with a warning of just these. There is no report if one of them is a
number. -/
theorem report_of_stale_rules {d : Value} (hd : d.IsJson)
    (hfields : ∀ id, d.HasField id → id.IsFieldId) (hrules : ∀ id, d.HasRuleOn id → id.IsFieldId)
    (h : ofPayload? d = .ok f) :
    (∀ id, f.Stale id ↔ d.HasRuleOn id ∧ ¬ d.HasField id) ∧
      ((∀ n, ¬ f.Stale (.int n)) → ∃ r, f.report = .ok r ∧ f.TellsStale r) ∧
      ((∃ n, f.Stale (.int n)) → f.report = .error .notText) := by
  have hfield := hasField_iff_of_ofPayload? hd h
  have hrule := hasRuleOn_iff_of_ofPayload? hd h
  refine ⟨fun id => and_congr (hrule id) (not_congr (hfield id)), report_cases ?_ ?_⟩
  · exact fun id hid => hfields id ((hfield id).mp hid)
  · exact fun id hid => hrules id ((hrule id).mp hid)

/-- A form with the one field 1 and one route, whose query has rules on these fields. -/
def numbered (ids : List Value) : Form :=
  let query : Condition := .group .and (ids.map fun id => .rule ⟨id, .isEmpty, .null⟩)
  ⟨"a", .text "", .text "", [⟨.int 1, .text "", .text, .text "", []⟩],
    [.rule ⟨"r", ⟨.customMessage, .text "yes"⟩, query, .missing, false⟩], .null, .null⟩

section
variable {ids : List Value}

theorem hasField_numbered : (numbered ids).HasField id ↔ id = .int 1 := by
  simp [numbered, HasField, eq_comm]

theorem hasRuleOn_numbered : (numbered ids).HasRuleOn id ↔ id ∈ ids := by
  have hrule (id : Value) : (Condition.rule ⟨id, .isEmpty, .null⟩).fields = [id] := rfl
  simp [numbered, HasRuleOn, Route.QueryOn, Condition.mem_fields_group, hrule]

theorem normal_numbered (h : ∀ id ∈ ids, id.IsFieldId) : (numbered ids).Normal := by
  refine ⟨.text "", .text "", .null, .null, fun x hx => ?_, fun r hr => ?_⟩
  · rw [List.mem_singleton.mp hx]
    exact ⟨.int 1, .text "", .text "", rfl, nofun⟩
  · rw [List.mem_singleton.mp hr]
    refine ⟨.text "yes", Condition.normal_group fun c hc => ?_, nofun, nofun⟩
    obtain ⟨id, hid, rfl⟩ := List.mem_map.mp hc
    intro x hx
    rw [List.mem_singleton.mp hx]
    exact ⟨(h id hid).isJson, .null, .null, rfl⟩

end

/-- The rules are on the field 1 itself, the text 1 and a deleted field; or on a number that is not 1. -/
theorem report_of_stale_rules_two_kinds :
    (let f := numbered [.text "gone", .int 1, .text "1", .text "1"]
     f.toPayload.IsJson ∧ ofPayload? f.toPayload = .ok f ∧
      ∃ r, f.report = .ok r ∧ f.TellsStale r ∧ r.danglingFields = ["1", "gone"] ∧
        "Rules reference unknown fields: " ++ "1, gone" ∈ r.warnings) ∧
    let f := numbered [.int 1, .text "1", .int 2]
    f.toPayload.IsJson ∧ ofPayload? f.toPayload = .ok f ∧ f.Stale (.int 2) ∧
      f.report = .error .notText := by
  have hcases (ids : List Value) (hids : ∀ id ∈ ids, id.IsFieldId) :=
    have hnormal := normal_numbered hids
    have hread := ofPayload?_toPayload hnormal
    have hfield := hasField_iff_of_ofPayload? hnormal.isJson_toPayload hread
    have hrule := hasRuleOn_iff_of_ofPayload? hnormal.isJson_toPayload hread
    report_of_stale_rules hnormal.isJson_toPayload
      (fun id hid => by rw [hasField_numbered.mp ((hfield id).mpr hid)]; trivial)
      (fun id hid => hids id (hasRuleOn_numbered.mp ((hrule id).mpr hid))) hread
  refine ⟨?_, ?_⟩
  · intro f
    have hids : ∀ id ∈ [Value.text "gone", .int 1, .text "1", .text "1"], id.IsFieldId := by
      simp [Value.IsFieldId]
    have hnormal : f.Normal := normal_numbered hids
    have hnone : ∀ n, ¬ f.Stale (.int n) := by
      simp [f, Stale, hasField_numbered, hasRuleOn_numbered]
    have hsome : f.Stale (.text "1") := by
      simp [f, Stale, hasField_numbered, hasRuleOn_numbered]
    obtain ⟨r, hr, htells⟩ := (hcases _ hids).2.1 hnone
    have hlist : r.danglingFields = ["1", "gone"] := by
      refine htells.inOrder.eq_of_mem_iff (by decide) fun s => ?_
      rw [htells.mem_danglingFields]
      simp [Stale, hasField_numbered, hasRuleOn_numbered, or_comm]
    have hwarns := (htells.warning "1, gone").mpr ⟨⟨_, hsome⟩, by rw [hlist]; rfl⟩
    exact ⟨hnormal.isJson_toPayload, ofPayload?_toPayload hnormal, r, hr, htells, hlist, hwarns⟩
  · intro f
    have hids : ∀ id ∈ [Value.int 1, .text "1", .int 2], id.IsFieldId := by simp [Value.IsFieldId]
    have hnormal : f.Normal := normal_numbered hids
    have hstale : f.Stale (.int 2) := by simp [f, Stale, hasField_numbered, hasRuleOn_numbered]
    exact ⟨hnormal.isJson_toPayload, ofPayload?_toPayload hnormal, hstale,
      (hcases _ hids).2.2 ⟨2, hstale⟩⟩

/-- A rule on a number that is no field's leaves no report. -/
theorem no_report_of_numbered_rule :
    let f := numbered [.int 7]
    let d := f.toPayload
    d.IsJson ∧ ofPayload? d = .ok f ∧ (∀ id, d.HasField id ↔ id = .int 1) ∧
      (∀ id, d.HasRuleOn id ↔ id = .int 7) ∧ ¬ ∃ r, f.report = .ok r := by
  intro f d
  have hnormal : f.Normal := normal_numbered (by simp [Value.IsFieldId])
  have hd : d.IsJson := hnormal.isJson_toPayload
  have hread : ofPayload? d = .ok f := ofPayload?_toPayload hnormal
  have hreport : f.report = .error .notText := by rfl
  refine ⟨hd, hread, fun id => ?_, fun id => ?_, by simp [hreport]⟩
  · rw [← hasField_iff_of_ofPayload? hd hread, hasField_numbered]
  · rw [← hasRuleOn_iff_of_ofPayload? hd hread, hasRuleOn_numbered, List.mem_singleton]

end Form

end SubmissionRouting
