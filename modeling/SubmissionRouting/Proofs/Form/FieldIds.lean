import SubmissionRouting.Proofs.Condition.Mentioned
import SubmissionRouting.Proofs.Condition.Reading

/-! # Ids of fields in payloads

The ids of fields, and the fields that rules are on, are read as they stand in a payload. Where they
stand is said without reading it: a form lists its fields under `fields` and its routes under `routes`,
and the query of a route has rules at any depth under `children` (`Value.HasField`,
`Value.HasRuleOn`). The form that is read from a JSON value has fields with exactly the ids that stand
there, and queries with rules on exactly the fields that stand there (`Form.hasField_iff_of_ofPayload?`,
`Form.hasRuleOn_iff_of_ofPayload?`). -/

namespace SubmissionRouting

open Value (IsJson Part)

/-! ### Where ids stand -/

namespace Value

/-- The value is a mapping in which something stands under the key. -/
def Has (d : Value) (key : String) (x : Value) : Prop := ∃ es, d = map es ∧ member? es key = some x

/-- The value is a mapping that lists something under the key. -/
def Lists (d : Value) (key : String) (x : Value) : Prop := ∃ vs, d.Has key (list vs) ∧ x ∈ vs

/-- The payload of a condition has a rule on the field with this id. -/
inductive RuleOn : Value → Value → Prop
  | rule {v id : Value} (isRule : v.Has "type" (text "rule")) (onField : v.Has "field" id) :
    RuleOn v id
  | group {v x id : Value} (isGroup : v.Has "type" (text "group")) (isChild : v.Lists "children" x)
    (inChild : RuleOn x id) : RuleOn v id

/-- The payload of a route has a rule on the field with this id in its query. A reference has no query,
whatever stands there. -/
def QueryOn (v id : Value) : Prop :=
  (¬ ∃ x, v.Has "is_router" x ∧ x.isTruthy = true) ∧ ∃ query, v.Has "query" query ∧ query.RuleOn id

/-- The payload of a form has a field with this id. -/
def HasField (d id : Value) : Prop := ∃ v, d.Lists "fields" v ∧ v.Has "id" id

/-- The payload of a form has a route with a rule on the field with this id in its query. -/
def HasRuleOn (d id : Value) : Prop := ∃ v, d.Lists "routes" v ∧ v.QueryOn id

/-! ### Keys and lists -/

section
variable {es : List (Value × Value)} {key : String} {v x y id : Value}

theorem has_map_iff : (map es).Has key x ↔ member? es key = some x :=
  ⟨fun ⟨_, heq, h⟩ => map.inj heq ▸ h, fun h => ⟨es, rfl, h⟩⟩

theorem Has.unique (hx : v.Has key x) (hy : v.Has key y) : x = y := by
  obtain ⟨es, rfl, hx⟩ := hx
  exact Option.some.inj (hx.symm.trans (has_map_iff.mp hy))

theorem Has.mem_inside (h : v.Has key x) : x ∈ v.inside := by
  obtain ⟨es, rfl, h⟩ := h
  exact mem_inside_of_member? h

theorem Lists.exists_part (h : v.Lists key x) : ∃ w ∈ v.inside, Part x w := by
  obtain ⟨vs, hvs, hx⟩ := h
  exact ⟨_, hvs.mem_inside, .of_inside hx (Part.refl x)⟩

theorem Lists.isJson (h : v.Lists key x) (hv : v.IsJson) : x.IsJson := by
  obtain ⟨w, hw, hpart⟩ := h.exists_part
  exact hv.of_part (.of_inside hw hpart)

theorem memberD_null_iff {P : Value → Prop} (hnull : ¬ P null) :
    P (memberD es key null) ↔ ∃ x, (map es).Has key x ∧ P x := by
  simp only [has_map_iff]
  unfold memberD
  cases member? es key with
  | none => simpa using hnull
  | some x => simp

theorem lists_map_iff :
    (map es).Lists key x ↔ ∃ vs, memberD es key (list []) = list vs ∧ x ∈ vs := by
  unfold Lists memberD
  simp only [has_map_iff]
  cases member? es key with
  | none => simp
  | some w => simp

theorem not_ruleOn_null : ¬ null.RuleOn id := by
  intro h
  cases h with
  | rule isRule _ => exact nomatch isRule
  | group isGroup _ _ => exact nomatch isGroup

theorem ruleOn_of_rule_iff (htype : v.Has "type" (text "rule")) :
    v.RuleOn id ↔ v.Has "field" id := by
  refine ⟨fun h => ?_, .rule htype⟩
  cases h with
  | rule _ onField => exact onField
  | group isGroup _ _ => exact absurd (htype.unique isGroup) (by simp)

theorem ruleOn_of_group_iff (htype : v.Has "type" (text "group")) :
    v.RuleOn id ↔ ∃ x, v.Lists "children" x ∧ x.RuleOn id := by
  refine ⟨fun h => ?_, fun ⟨_, hchild, h⟩ => .group htype hchild h⟩
  cases h with
  | rule isRule _ => exact absurd (htype.unique isRule) (by simp)
  | group _ isChild inChild => exact ⟨_, isChild, inChild⟩

theorem items_cases (hv : v.IsJson) {vs : List Value} (h : v.items = .ok vs) :
    v = list vs ∨ (∀ us, v ≠ list us) ∧ ∀ x ∈ vs, ∃ s, x = text s := by
  cases hv with
  | list _ => cases h; exact .inl rfl
  | text s =>
    cases h
    refine .inr ⟨nofun, fun x hx => ?_⟩
    obtain ⟨c, -, rfl⟩ := List.mem_map.mp hx
    exact ⟨_, rfl⟩
  | map keyed _ =>
    cases h
    refine .inr ⟨nofun, fun x hx => ?_⟩
    obtain ⟨e, he, rfl⟩ := List.mem_map.mp hx
    exact keyed.texts e he
  | _ => cases h

theorem forall₂_of_eachItem {α : Type} (hes : ∀ e ∈ es, e.2.IsJson) {read : Value → Result α}
    (htexts : ∀ s a, read (text s) ≠ .ok a) {as : List α}
    (h : (memberD es key (list [])).eachItem read = .ok as) :
    ∃ vs, (∀ x, (map es).Lists key x ↔ x ∈ vs) ∧
      List.Forall₂ (fun x a => read x = .ok a) vs as := by
  obtain ⟨vs, hvs, h⟩ := exists_of_bind_eq_ok h
  have hpairs := forall₂_of_mapM h
  have hjson : (memberD es key (list [])).IsJson := IsJson.memberD hes key isJson_nil
  rcases items_cases hjson (orFault_eq_ok_iff.mp hvs) with hlist | ⟨hother, htext⟩
  · exact ⟨vs, fun x => by simp [lists_map_iff, hlist], hpairs⟩
  · -- nothing is listed, and as texts are not read, there are no items
    have hnone : as = [] := by
      refine List.eq_nil_iff_forall_not_mem.mpr fun a ha => ?_
      obtain ⟨x, hx, hread⟩ := exists_of_forall₂ hpairs a ha
      obtain ⟨s, rfl⟩ := htext x hx
      exact htexts s a hread
    exact ⟨[], fun x => by simp [lists_map_iff, hother], hnone ▸ .nil⟩

end

end Value

/-! ### Ids that are read -/

namespace Condition

/-- **The rules of a condition that is read** are on the fields that stand in its payload. -/
theorem mem_fields_iff_of_read {inKnot : Value → Result Condition} {v : Value} (hv : v.IsJson)
    {c : Condition} (h : read inKnot v = .ok c) (id : Value) : id ∈ c.fields ↔ v.RuleOn id := by
  -- on all parts, as children stand in what stands under their key
  induction v using Part.induction generalizing c with
  | step v ih =>
    cases hv with
    | null =>
      cases h
      exact iff_of_false List.not_mem_nil Value.not_ruleOn_null
    | @map es keyed values =>
      rcases type_cases es with hnone | hgroup | hrule | ⟨type, htype, hgroup, hrule⟩
      · rw [read_of_no_type inKnot hnone] at h
        cases h
      · rw [read_of_group inKnot hgroup, readChildren_eq_eachItem inKnot values] at h
        obtain ⟨k, -, h⟩ := exists_of_bind_eq_ok h
        obtain ⟨cs, hcs, h⟩ := exists_of_bind_eq_ok h
        cases h
        have htexts : ∀ s c, read inKnot (.text s) ≠ .ok c := fun s c hread => by cases hread
        obtain ⟨vs, hvs, hpairs⟩ := Value.forall₂_of_eachItem values htexts hcs
        rw [mem_fields_group, Value.ruleOn_of_group_iff (Value.has_map_iff.mpr hgroup)]
        simp only [hvs]
        refine (exists_mem_iff_of_forall₂ hpairs fun x hx c hc => ?_).symm
        have hchild := (hvs x).mpr hx
        obtain ⟨w, hw, hpart⟩ := hchild.exists_part
        exact (ih w hw x hpart (hchild.isJson (.map keyed values)) hc).symm
      · rw [read_of_rule inKnot hrule] at h
        obtain ⟨r, hr, rfl⟩ := exists_of_map_eq_ok h
        obtain ⟨field, hfield, hr⟩ := exists_of_bind_eq_ok hr
        obtain ⟨_, -, hr⟩ := exists_of_bind_eq_ok hr
        obtain ⟨_, -, hr⟩ := exists_of_bind_eq_ok hr
        cases hr
        rw [Value.ruleOn_of_rule_iff (Value.has_map_iff.mpr hrule), Value.has_map_iff,
          Value.requiredIn_eq_ok_iff.mp hfield, Option.some_inj, eq_comm]
        exact List.mem_singleton
      · rw [read_of_other inKnot htype hgroup hrule] at h
        obtain ⟨s, -, h⟩ := exists_of_bind_eq_ok h
        cases h
    | _ => cases h

theorem mem_fields_iff_of_ofPayload? {v : Value} (hv : v.IsJson) {c : Condition}
    (h : ofPayload? v = .ok c) (id : Value) : id ∈ c.fields ↔ v.RuleOn id := by
  rw [ofPayload?_eq hv] at h
  exact mem_fields_iff_of_read hv h id

end Condition

theorem Field.id_eq_iff_of_ofPayload? {v : Value} (hv : v.IsJson) {x : Field}
    (h : Field.ofPayload? v = .ok x) (id : Value) : x.id = id ↔ v.Has "id" id := by
  obtain ⟨id', hid, h⟩ := exists_of_bind_eq_ok h
  obtain ⟨es, hes, h⟩ := exists_of_bind_eq_ok h
  obtain ⟨_, -, h⟩ := exists_of_bind_eq_ok h
  obtain ⟨_, -, h⟩ := exists_of_bind_eq_ok h
  cases h
  obtain rfl := hv.eq_map_of_entries hes
  rw [Value.has_map_iff, Value.requiredIn_eq_ok_iff.mp hid, Option.some_inj]

/-- The route is no reference, and its query has a rule on the field with this id. -/
def Route.QueryOn (r : Route) (id : Value) : Prop := ∃ x, r = .rule x ∧ id ∈ x.query.fields

theorem Route.queryOn_iff_of_ofPayload? {v : Value} (hv : v.IsJson) {r : Route}
    (h : Route.ofPayload? v = .ok r) (id : Value) : r.QueryOn id ↔ v.QueryOn id := by
  obtain ⟨_, -, h⟩ := exists_of_bind_eq_ok h
  obtain ⟨_, -, h⟩ := exists_of_bind_eq_ok h
  obtain ⟨es, hes, h⟩ := exists_of_bind_eq_ok h
  obtain rfl := hv.eq_map_of_entries hes
  unfold Value.QueryOn
  rw [← Value.memberD_null_iff (P := fun x => x.isTruthy = true) nofun,
    ← Value.memberD_null_iff (P := fun x => x.RuleOn id) Value.not_ruleOn_null]
  by_cases hrouter : (Value.memberD es "is_router" .null).isTruthy = true
  · rw [if_pos hrouter] at h
    cases h
    exact iff_of_false nofun fun hquery => hquery.1 hrouter
  · rw [if_neg hrouter] at h
    obtain ⟨query, hquery, h⟩ := exists_of_bind_eq_ok h
    obtain ⟨_, -, h⟩ := exists_of_bind_eq_ok h
    obtain ⟨_, -, h⟩ := exists_of_bind_eq_ok h
    obtain ⟨_, -, h⟩ := exists_of_bind_eq_ok h
    cases h
    have hfields : (if query.isMissing then .matchAll else query : Condition).fields =
        query.fields := by
      cases query <;> rfl
    have hjson : (Value.memberD es "query" .null).IsJson := IsJson.memberD hv.of_map _ .null
    rw [← Condition.mem_fields_iff_of_ofPayload? hjson hquery, and_iff_right hrouter, ← hfields]
    unfold Route.QueryOn
    simp

namespace Form

/-- The form has a field with this id. -/
def HasField (f : Form) (id : Value) : Prop := ∃ x ∈ f.fields, x.id = id

/-- A route of the form has a rule on the field with this id in its query. -/
def HasRuleOn (f : Form) (id : Value) : Prop := ∃ r ∈ f.routes, r.QueryOn id

variable {d : Value} {f : Form}

theorem forall₂_of_ofPayload? (hd : d.IsJson) (h : ofPayload? d = .ok f) :
    (∃ vs, (∀ x, d.Lists "fields" x ↔ x ∈ vs) ∧
        List.Forall₂ (fun x a => Field.ofPayload? x = .ok a) vs f.fields) ∧
      ∃ vs, (∀ x, d.Lists "routes" x ↔ x ∈ vs) ∧
        List.Forall₂ (fun x a => Route.ofPayload? x = .ok a) vs f.routes := by
  obtain ⟨_, -, h⟩ := exists_of_bind_eq_ok h
  obtain ⟨_, -, h⟩ := exists_of_bind_eq_ok h
  obtain ⟨es, hes, h⟩ := exists_of_bind_eq_ok h
  obtain ⟨fields, hfields, h⟩ := exists_of_bind_eq_ok h
  obtain ⟨routes, hroutes, h⟩ := exists_of_bind_eq_ok h
  cases h
  obtain rfl := hd.eq_map_of_entries hes
  have hfield : ∀ s x, Field.ofPayload? (.text s) ≠ .ok x := fun s x hread => by cases hread
  have hroute : ∀ s r, Route.ofPayload? (.text s) ≠ .ok r := fun s r hread => by cases hread
  exact ⟨Value.forall₂_of_eachItem hd.of_map hfield hfields,
    Value.forall₂_of_eachItem hd.of_map hroute hroutes⟩

/-- **A form that is read** has fields with the ids that stand in its payload. -/
theorem hasField_iff_of_ofPayload? (hd : d.IsJson) (h : ofPayload? d = .ok f) (id : Value) :
    f.HasField id ↔ d.HasField id := by
  obtain ⟨⟨vs, hvs, hpairs⟩, -⟩ := forall₂_of_ofPayload? hd h
  unfold HasField Value.HasField
  simp only [hvs]
  refine (exists_mem_iff_of_forall₂ hpairs fun x hx a ha => ?_).symm
  exact (Field.id_eq_iff_of_ofPayload? (((hvs x).mpr hx).isJson hd) ha id).symm

/-- **A form that is read** has rules in its queries on the fields that stand in its payload. -/
theorem hasRuleOn_iff_of_ofPayload? (hd : d.IsJson) (h : ofPayload? d = .ok f) (id : Value) :
    f.HasRuleOn id ↔ d.HasRuleOn id := by
  obtain ⟨-, vs, hvs, hpairs⟩ := forall₂_of_ofPayload? hd h
  unfold HasRuleOn Value.HasRuleOn
  simp only [hvs]
  refine (exists_mem_iff_of_forall₂ hpairs fun x hx a ha => ?_).symm
  exact (Route.queryOn_iff_of_ofPayload? (((hvs x).mpr hx).isJson hd) ha id).symm

end Form

end SubmissionRouting
