import SubmissionRouting.Proofs.Condition.Outcome
import SubmissionRouting.Proofs.Condition.Reading

/-! # What is read from JSON

A form that is read from a JSON value is *normal* (`Form.normal_of_ofPayload?`): the values that it
carries are JSON values, with a comparand that is a list read as a tuple; an identifier that counts as
not given has become the empty text; and no route lacks its condition. The payload of a normal form is
a JSON value again (`Form.Normal.isJson_toPayload`). -/

namespace SubmissionRouting

namespace Value

/-! ### Reading of JSON values -/

theorem IsJson.orElse {v w : Value} (hv : v.IsJson) (hw : w.IsJson) : (v.orElse w).IsJson := by
  unfold Value.orElse
  split
  · exact hv
  · exact hw

theorem IsJson.plain {v : Value} (h : v.IsJson) : v.plain = v := by
  cases h <;> rfl

theorem IsJson.plainAll {vs : List Value} (h : ∀ v ∈ vs, v.IsJson) : plainAll vs = vs := by
  induction vs with
  | nil => rfl
  | cons v vs ih =>
    rw [Value.plainAll, (h v List.mem_cons_self).plain,
      ih fun u hu => h u (List.mem_cons_of_mem v hu)]

theorem IsJson.plain_fixed {v : Value} (h : v.IsJson) : v.fixed.plain = v := by
  unfold fixed
  rw [h.opened]
  cases h with
  | list items => exact congrArg Value.list (IsJson.plainAll items)
  | _ => rfl

end Value

open Value (IsJson)

/-! ### Normal forms -/

structure Choice.Normal (c : Choice) : Prop where
  label : c.label.IsJson

structure Field.Normal (f : Field) : Prop where
  id : f.id.IsJson
  label : f.label.IsJson
  identifier : f.identifier.IsJson
  /-- An identifier that does not count as given is the empty text. -/
  given : f.identifier.orElse (.text "") = f.identifier
  choices : ∀ c ∈ f.choices, c.Normal

structure Rule.Normal (r : Rule) : Prop where
  field : r.field.IsJson
  comparand : ∃ v : Value, v.IsJson ∧ r.comparand = v.fixed

def Condition.Normal (c : Condition) : Prop := ∀ r ∈ c.rules, r.Normal

structure RuleRoute.Normal (r : RuleRoute) : Prop where
  action : r.action.value.IsJson
  query : r.query.Normal
  given : r.query ≠ .missing
  attributesQuery : r.attributesQuery.Normal

structure RouterReference.Normal (r : RouterReference) : Prop where
  name : r.name.IsJson
  description : r.description.IsJson

def Route.Normal : Route → Prop
  | rule r => r.Normal
  | reference r => r.Normal

structure Form.Normal (f : Form) : Prop where
  name : f.name.IsJson
  description : f.description.IsJson
  team : f.team.IsJson
  user : f.user.IsJson
  fields : ∀ x ∈ f.fields, x.Normal
  routes : ∀ r ∈ f.routes, r.Normal

/-! ### Reading gives normal forms -/

theorem Choice.normal_of_ofPayload? {v : Value} (hv : v.IsJson) {c : Choice}
    (h : Choice.ofPayload? v = .ok c) : c.Normal := by
  obtain ⟨_, -, h⟩ := exists_of_bind_eq_ok h
  obtain ⟨_, -, h⟩ := exists_of_bind_eq_ok h
  obtain ⟨label, hlabel, h⟩ := exists_of_bind_eq_ok h
  cases h
  exact ⟨hv.of_required hlabel⟩

theorem Field.normal_of_ofPayload? {v : Value} (hv : v.IsJson) {f : Field}
    (h : Field.ofPayload? v = .ok f) : f.Normal := by
  obtain ⟨id, hid, h⟩ := exists_of_bind_eq_ok h
  obtain ⟨es, hes, h⟩ := exists_of_bind_eq_ok h
  obtain ⟨kind, -, h⟩ := exists_of_bind_eq_ok h
  obtain ⟨choices, hchoices, h⟩ := exists_of_bind_eq_ok h
  cases h
  have hvalues := hv.of_entries hes
  have hoptions : (Value.memberD es "options" .null).IsJson := IsJson.memberD hvalues _ .null
  have hgiven : (Value.memberD es "identifier" .null).IsJson := IsJson.memberD hvalues _ .null
  refine ⟨hv.of_required hid, IsJson.memberD hvalues _ (.text ""), hgiven.orElse (.text ""), ?_, ?_⟩
  · unfold Value.orElse
    by_cases ht : (Value.memberD es "identifier" .null).isTruthy = true
    · simp [ht]
    · simp [ht]
  · intro c hc
    obtain ⟨x, hx, hread⟩ := (hoptions.orElse Value.isJson_nil).exists_of_eachItem hchoices c hc
    exact Choice.normal_of_ofPayload? hx hread

theorem Rule.normal_of_ofEntries? {es : List (Value × Value)} (hes : ∀ e ∈ es, e.2.IsJson)
    {r : Rule} (h : Rule.ofEntries? es = .ok r) : r.Normal := by
  obtain ⟨field, hfield, h⟩ := exists_of_bind_eq_ok h
  obtain ⟨_, -, h⟩ := exists_of_bind_eq_ok h
  obtain ⟨_, -, h⟩ := exists_of_bind_eq_ok h
  cases h
  exact ⟨IsJson.of_requiredIn hes hfield, _, IsJson.memberD hes "value" .null, rfl⟩

namespace Condition

theorem normal_group {k : Combinator} {cs : List Condition} (h : ∀ c ∈ cs, c.Normal) :
    (group k cs).Normal := by
  intro r hr
  obtain ⟨c, hc, hr⟩ := mem_rules_group.mp hr
  exact h c hc r hr

theorem normal_of_ofPayload? {v : Value} (hv : v.IsJson) {c : Condition}
    (h : ofPayload? v = .ok c) : c.Normal := by
  intro r hr
  obtain ⟨es, hpart, hread⟩ := exists_entries_of_ofPayload? hv h r hr
  exact Rule.normal_of_ofEntries? (hv.of_part hpart).of_map hread

end Condition

theorem Action.isJson_of_ofPayload? {v : Value} (hv : v.IsJson) {a : Action}
    (h : Action.ofPayload? v = .ok a) : a.value.IsJson := by
  obtain ⟨_, -, h⟩ := exists_of_bind_eq_ok h
  obtain ⟨_, -, h⟩ := exists_of_bind_eq_ok h
  obtain ⟨es, hes, h⟩ := exists_of_bind_eq_ok h
  cases h
  exact IsJson.memberD (hv.of_entries hes) "value" (.text "")

theorem Route.normal_of_ofPayload? {v : Value} (hv : v.IsJson) {r : Route}
    (h : Route.ofPayload? v = .ok r) : r.Normal := by
  obtain ⟨_, -, h⟩ := exists_of_bind_eq_ok h
  obtain ⟨_, -, h⟩ := exists_of_bind_eq_ok h
  obtain ⟨es, hes, h⟩ := exists_of_bind_eq_ok h
  have hvalues := hv.of_entries hes
  by_cases hrouter : (Value.memberD es "is_router" .null).isTruthy = true
  · rw [if_pos hrouter] at h
    cases h
    exact ⟨IsJson.memberD hvalues "name" (.text ""), IsJson.memberD hvalues "description" (.text "")⟩
  · rw [if_neg hrouter] at h
    obtain ⟨query, hquery, h⟩ := exists_of_bind_eq_ok h
    obtain ⟨x, hx, h⟩ := exists_of_bind_eq_ok h
    obtain ⟨action, haction, h⟩ := exists_of_bind_eq_ok h
    obtain ⟨attributesQuery, hattributes, h⟩ := exists_of_bind_eq_ok h
    cases h
    have hqueryNormal := Condition.normal_of_ofPayload? (IsJson.memberD hvalues "query" .null) hquery
    have hmatchAll : Condition.matchAll.Normal := Condition.normal_group nofun
    refine ⟨Action.isJson_of_ofPayload? (hv.of_required hx) haction, ?_, ?_,
      Condition.normal_of_ofPayload? (IsJson.memberD hvalues "attributes_query" .null) hattributes⟩
    · show (if query.isMissing then Condition.matchAll else query).Normal
      split
      · exact hmatchAll
      · exact hqueryNormal
    · show (if query.isMissing then Condition.matchAll else query) ≠ .missing
      cases query <;> exact nofun

/-- **A form that is read from a JSON value is normal.** -/
theorem Form.normal_of_ofPayload? {v : Value} (hv : v.IsJson) {f : Form}
    (h : Form.ofPayload? v = .ok f) : f.Normal := by
  obtain ⟨_, -, h⟩ := exists_of_bind_eq_ok h
  obtain ⟨_, -, h⟩ := exists_of_bind_eq_ok h
  obtain ⟨es, hes, h⟩ := exists_of_bind_eq_ok h
  obtain ⟨fields, hfields, h⟩ := exists_of_bind_eq_ok h
  obtain ⟨routes, hroutes, h⟩ := exists_of_bind_eq_ok h
  cases h
  have hvalues := hv.of_entries hes
  have hfieldList : (Value.memberD es "fields" (.list [])).IsJson :=
    IsJson.memberD hvalues _ Value.isJson_nil
  have hrouteList : (Value.memberD es "routes" (.list [])).IsJson :=
    IsJson.memberD hvalues _ Value.isJson_nil
  refine ⟨IsJson.memberD hvalues "name" (.text ""), IsJson.memberD hvalues "description" (.text ""),
    IsJson.memberD hvalues "team_id" .null, IsJson.memberD hvalues "user_id" .null, ?_, ?_⟩
  · intro x hx
    obtain ⟨p, hp, hread⟩ := hfieldList.exists_of_eachItem hfields x hx
    exact Field.normal_of_ofPayload? hp hread
  · intro r hr
    obtain ⟨p, hp, hread⟩ := hrouteList.exists_of_eachItem hroutes r hr
    exact Route.normal_of_ofPayload? hp hread

/-! ### Payloads of normal forms -/

theorem Choice.Normal.isJson_toPayload {c : Choice} (h : c.Normal) : c.toPayload.IsJson :=
  Value.isJson_record (l := [("id", .text c.id), ("label", c.label)]) (by simp)
    (by simp [IsJson.text, h.label])

theorem Field.Normal.isJson_toPayload {f : Field} (h : f.Normal) : f.toPayload.IsJson := by
  have hchoices : (choicesToPayload f.choices).IsJson := by
    refine .list fun p hp => ?_
    obtain ⟨c, hc, rfl⟩ := List.mem_map.mp hp
    exact (h.choices c hc).isJson_toPayload
  refine Value.isJson_record (l := [("id", f.id), ("label", f.label), ("type", .text f.kind.name),
    ("identifier", f.identifier), ("options", choicesToPayload f.choices)]) (by simp) ?_
  simp [IsJson.text, h.id, h.label, h.identifier, hchoices]

theorem Rule.Normal.isJson_toPayload {r : Rule} (h : r.Normal) : r.toPayload.IsJson := by
  obtain ⟨v, hv, hcomparand⟩ := h.comparand
  have hplain : r.comparand.plain = v := by rw [hcomparand, hv.plain_fixed]
  refine Value.isJson_record (l := [("type", .text "rule"), ("field", r.field),
    ("operator", .text r.operator.name), ("value", r.comparand.plain)]) (by simp) ?_
  simp [IsJson.text, h.field, hplain, hv]

namespace Condition

theorem toPayloads_eq_map (cs : List Condition) : toPayloads cs = cs.map toPayload := by
  induction cs with
  | nil => rfl
  | cons c cs ih => exact congrArg (toPayload c :: ·) ih

theorem toPayload_group (k : Combinator) (cs : List Condition) :
    (group k cs).toPayload = .map [(.text "type", .text "group"), (.text "combinator", .text k.name),
      (.text "children", .list (cs.map toPayload))] := by
  rw [toPayload, toPayloads_eq_map]

theorem Normal.of_mem {k : Combinator} {cs : List Condition} (h : (group k cs).Normal) :
    ∀ c ∈ cs, c.Normal := by
  intro c hc r hr
  exact h r (rules_subset_group hc hr)

theorem Normal.isJson_toPayload {c : Condition} (h : c.Normal) : c.toPayload.IsJson := by
  induction c using Condition.induction with
  | missing => exact .null
  | rule r => exact (h r (List.mem_singleton_self r)).isJson_toPayload
  | group k cs ih =>
    have hchildren : (Value.list (cs.map toPayload)).IsJson := by
      refine .list fun p hp => ?_
      obtain ⟨c, hc, rfl⟩ := List.mem_map.mp hp
      exact ih c hc (h.of_mem c hc)
    rw [toPayload_group]
    refine Value.isJson_record (l := [("type", .text "group"), ("combinator", .text k.name),
      ("children", .list (cs.map toPayload))]) (by simp) ?_
    simp [IsJson.text, hchildren]

end Condition

theorem Action.isJson_toPayload {a : Action} (h : a.value.IsJson) : a.toPayload.IsJson :=
  Value.isJson_record (l := [("kind", .text a.kind.name), ("value", a.value)]) (by simp)
    (by simp [IsJson.text, h])

theorem RuleRoute.Normal.isJson_toPayload {r : RuleRoute} (h : r.Normal) : r.toPayload.IsJson := by
  refine Value.isJson_record (l := [("id", .text r.id), ("action", r.action.toPayload),
    ("is_fallback", .bool r.isFallback), ("query", r.query.toPayload),
    ("attributes_query", r.attributesQuery.toPayload)]) (by simp) ?_
  simp [IsJson.text, IsJson.bool, Action.isJson_toPayload h.action, h.query.isJson_toPayload,
    h.attributesQuery.isJson_toPayload]

theorem RouterReference.Normal.isJson_toPayload {r : RouterReference} (h : r.Normal) :
    r.toPayload.IsJson := by
  refine Value.isJson_record (l := [("id", .text r.id), ("is_router", .bool true),
    ("name", r.name), ("description", r.description)]) (by simp) ?_
  simp [IsJson.text, IsJson.bool, h.name, h.description]

theorem Route.Normal.isJson_toPayload {r : Route} (h : r.Normal) : r.toPayload.IsJson := by
  cases r with
  | rule r => exact RuleRoute.Normal.isJson_toPayload h
  | reference r => exact RouterReference.Normal.isJson_toPayload h

/-- **The payload of a normal form is a JSON value.** -/
theorem Form.Normal.isJson_toPayload {f : Form} (h : f.Normal) : f.toPayload.IsJson := by
  have hfields : (Value.list (f.fields.map Field.toPayload)).IsJson := by
    refine .list fun p hp => ?_
    obtain ⟨x, hx, rfl⟩ := List.mem_map.mp hp
    exact (h.fields x hx).isJson_toPayload
  have hroutes : (Value.list (f.routes.map Route.toPayload)).IsJson := by
    refine .list fun p hp => ?_
    obtain ⟨r, hr, rfl⟩ := List.mem_map.mp hp
    exact (h.routes r hr).isJson_toPayload
  refine Value.isJson_record (l := [("id", .text f.id), ("name", f.name),
    ("description", f.description), ("team_id", f.team), ("user_id", f.user),
    ("fields", .list (f.fields.map Field.toPayload)),
    ("routes", .list (f.routes.map Route.toPayload))]) (by simp) ?_
  simp [IsJson.text, h.name, h.description, h.team, h.user, hfields, hroutes]

end SubmissionRouting
