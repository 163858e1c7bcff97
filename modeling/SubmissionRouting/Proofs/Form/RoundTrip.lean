import SubmissionRouting.Form.Text
import SubmissionRouting.Proofs.Form.Normal
import SubmissionRouting.Proofs.Form.Values
import SubmissionRouting.Proofs.Json.Canonical

/-! # Forms come back from their payloads

A form is read back from its payload, and from what looks like its payload: a form that looks the same
comes back (`Form.recovers`). Looking is done with a function that shows all that reading makes use
of (`Faithful`). One such function changes nothing, so that the payload gives the form itself
(`Form.ofPayload?_toPayload`); another one sorts entries, so that the text of a form gives the form
up to the order of the entries in its values, which the text does not keep (`codec_lossless`). -/

namespace SubmissionRouting

open Value (IsJson)

/-! ### Faithful functions -/

/-- A function on values that shows all that reading makes use of. -/
structure Faithful (φ : Value → Value) : Prop where
  json : ∀ {v w : Value}, v.IsJson → φ w = φ v → w.IsJson
  truthy : ∀ {v w : Value}, φ w = φ v → w.isTruthy = v.isTruthy
  null : ∀ {w : Value}, φ w = φ .null → w = .null
  text : ∀ {w : Value} {s : String}, φ w = φ (.text s) → w = .text s
  list : ∀ {w : Value} {vs : List Value}, φ w = φ (.list vs) →
    ∃ ws, w = .list ws ∧ ws.map φ = vs.map φ
  map : ∀ {w : Value} {es : List (Value × Value)}, (Value.map es).IsJson → φ w = φ (.map es) →
    ∃ fs, w = .map fs ∧ ∀ key, (Value.member? fs key).map φ = (Value.member? es key).map φ
  fixed : ∀ {v w : Value}, v.IsJson → φ w = φ v → φ w.fixed = φ v.fixed

theorem faithful_id : Faithful fun v => v where
  json hv h := by rw [h]; exact hv
  truthy h := by rw [h]
  null h := h
  text h := h
  list h := ⟨_, h, rfl⟩
  map _ h := ⟨_, h, fun _ => rfl⟩
  fixed _ h := by rw [h]

namespace Value

theorem isTruthy_arranged (v : Value) : v.arranged.isTruthy = v.isTruthy := by
  cases v with
  | list vs => rw [arranged_list]; cases vs <;> rfl
  | tuple vs => rw [arranged_tuple]; cases vs <;> rfl
  | map es =>
    rw [arranged_map]
    show (!(byKey (es.map fun e => (e.1, e.2.arranged))).isEmpty) = !es.isEmpty
    rw [(byKey_perm _).isEmpty_eq, List.isEmpty_map]
  | _ => rfl

theorem IsJson.arranged_fixed {v : Value} (hv : v.IsJson) :
    v.fixed.arranged = v.arranged.fixed := by
  cases hv with
  | @list vs items =>
    show (tuple vs).arranged = (Value.list vs).arranged.fixed
    rw [arranged_tuple, arranged_list]
    rfl
  | _ => rfl

end Value

theorem faithful_arranged : Faithful Value.arranged where
  json hv h := hv.of_arranged _ h
  truthy h := by rw [← Value.isTruthy_arranged, h, Value.isTruthy_arranged]
  null := Value.eq_null_of_arranged
  text := Value.eq_text_of_arranged
  list := Value.eq_list_of_arranged
  map hv h := by
    obtain ⟨fs, rfl, hfs⟩ := Value.eq_map_of_arranged h
    cases hv with
    | map keyed values => exact ⟨fs, rfl, Value.member?_of_arranged keyed hfs⟩
  fixed hv h := by rw [(hv.of_arranged _ h).arranged_fixed, h, hv.arranged_fixed]

/-! ### Recovery -/

section
variable {α : Type} {φ : Value → Value}

/-- From every value that looks like the payload, something is read that looks like the original. -/
def Recovers (φ : Value → Value) (read : Value → Result α) (look : α → α) (payload : Value)
    (a : α) : Prop :=
  ∀ w, φ w = φ payload → ∃ a', read w = .ok a' ∧ look a' = look a

theorem exists_member?_of_map {es fs : List (Value × Value)}
    (h : ∀ key, (Value.member? fs key).map φ = (Value.member? es key).map φ) (key : String)
    {v : Value} (hv : Value.member? es key = some v) :
    ∃ x, Value.member? fs key = some x ∧ φ x = φ v := by
  have hkey := h key
  rw [hv] at hkey
  exact Option.map_eq_some_iff.mp hkey

theorem entries_map (es : List (Value × Value)) : (Value.map es).entries = .ok es := rfl

theorem required_map {es : List (Value × Value)} {key : String} {x : Value}
    (h : Value.member? es key = some x) : (Value.map es).required key = .ok x :=
  Value.requiredIn_eq_ok_iff.mpr h

theorem memberD_of_member? {es : List (Value × Value)} {key : String} {x default : Value}
    (h : Value.member? es key = some x) : Value.memberD es key default = x := by
  unfold Value.memberD
  rw [h]
  rfl

theorem named_text {β : Type} {vocabulary : Vocabulary} {ofName? : String → Option β} {s : String}
    {b : β} (h : ofName? s = some b) : Value.named vocabulary ofName? (.text s) = .ok b := by
  simp only [Value.named, h]

theorem Recovers.mapM {read : Value → Result α} {look : α → α} {write : α → Value} {as : List α}
    (h : ∀ a ∈ as, Recovers φ read look (write a) a) :
    ∀ ws : List Value, ws.map φ = (as.map write).map φ →
      ∃ as', ws.mapM read = .ok as' ∧ as'.map look = as.map look := by
  induction as with
  | nil =>
    intro ws hws
    rw [List.map_eq_nil_iff.mp hws]
    exact ⟨[], rfl, rfl⟩
  | cons a as ih =>
    intro ws hws
    obtain ⟨w, rest, rfl, hw, hrest⟩ := List.map_eq_cons_iff.mp hws
    obtain ⟨a', ha', hlook⟩ := h a List.mem_cons_self w hw
    obtain ⟨as', has', hlooks⟩ := ih (fun b hb => h b (List.mem_cons_of_mem a hb)) rest hrest
    refine ⟨a' :: as', ?_, ?_⟩
    · rw [List.mapM_cons, ha', has']
      rfl
    · rw [List.map_cons, List.map_cons, hlook, hlooks]

theorem Recovers.eachItem (hφ : Faithful φ) {read : Value → Result α} {look : α → α}
    {write : α → Value} {as : List α} (h : ∀ a ∈ as, Recovers φ read look (write a) a) :
    Recovers φ (Value.eachItem read) (List.map look) (.list (as.map write)) as := by
  intro w hw
  obtain ⟨ws, rfl, hws⟩ := hφ.list hw
  exact Recovers.mapM h ws hws

theorem Choice.recovers (hφ : Faithful φ) {c : Choice} (h : c.Normal) :
    Recovers φ Choice.ofPayload? (Choice.mapValues φ) c.toPayload c := by
  intro w hw
  obtain ⟨fs, rfl, hfs⟩ := hφ.map h.isJson_toPayload hw
  obtain ⟨id, hid, hidφ⟩ := exists_member?_of_map hfs "id" rfl
  obtain ⟨label, hlabel, hlabelφ⟩ := exists_member?_of_map hfs "label" rfl
  obtain rfl := hφ.text hidφ
  refine ⟨⟨c.id, label⟩, ?_, ?_⟩
  · simp only [ofPayload?, required_map hid, required_map hlabel, ok_bind, Value.shown_text, liftM_ok]
    rfl
  · unfold mapValues
    rw [hlabelφ]

theorem Choice.recovers_all (hφ : Faithful φ) {choices : List Choice}
    (h : ∀ c ∈ choices, c.Normal) :
    Recovers φ choicesOfPayload? (List.map (Choice.mapValues φ)) (choicesToPayload choices)
      choices := by
  intro w hw
  obtain ⟨ws, rfl, -⟩ := hφ.list hw
  have hgiven : (Value.list ws).orElse (.list []) = .list ws := by cases ws <;> rfl
  unfold choicesOfPayload?
  rw [hgiven]
  exact Recovers.eachItem hφ (fun c hc => Choice.recovers hφ (h c hc)) _ hw

theorem Field.recovers (hφ : Faithful φ) {f : Field} (h : f.Normal) :
    Recovers φ Field.ofPayload? (Field.mapValues φ) f.toPayload f := by
  intro w hw
  obtain ⟨fs, rfl, hfs⟩ := hφ.map h.isJson_toPayload hw
  obtain ⟨id, hid, hidφ⟩ := exists_member?_of_map hfs "id" rfl
  obtain ⟨label, hlabel, hlabelφ⟩ := exists_member?_of_map hfs "label" rfl
  obtain ⟨kind, hkind, hkindφ⟩ := exists_member?_of_map hfs "type" rfl
  obtain ⟨given, hgiven, hgivenφ⟩ := exists_member?_of_map hfs "identifier" rfl
  obtain ⟨options, hoptions, hoptionsφ⟩ := exists_member?_of_map hfs "options" rfl
  obtain rfl := hφ.text hkindφ
  obtain ⟨choices, hchoices, hchoicesφ⟩ := Choice.recovers_all hφ h.choices options hoptionsφ
  -- an identifier that does not count as given is the empty text, and so is read as such again
  have hidentifier : φ (given.orElse (.text "")) = φ f.identifier := by
    have hempty := h.given
    unfold Value.orElse at hempty ⊢
    rw [hφ.truthy hgivenφ]
    split at hempty
    · rw [if_pos ‹_›, hgivenφ]
    · rw [if_neg ‹_›, hempty]
  refine ⟨⟨id, label, f.kind, given.orElse (.text ""), choices⟩, ?_, ?_⟩
  · simp only [ofPayload?, required_map hid, entries_map, memberD_of_member? hlabel,
      memberD_of_member? hkind, memberD_of_member? hgiven, memberD_of_member? hoptions, ok_bind,
      named_text (FieldKind.ofName?_name f.kind), hchoices]
    rfl
  · unfold mapValues
    rw [hidφ, hlabelφ, hidentifier, hchoicesφ]

theorem Rule.recovers (hφ : Faithful φ) {r : Rule} (h : r.Normal) {w : Value}
    (hw : φ w = φ r.toPayload) : ∃ fs r', w = .map fs ∧
      Value.member? fs "type" = some (.text "rule") ∧ Rule.ofEntries? fs = .ok r' ∧
        r'.mapValues φ = r.mapValues φ := by
  obtain ⟨fs, rfl, hfs⟩ := hφ.map h.isJson_toPayload hw
  obtain ⟨type, htype, htypeφ⟩ := exists_member?_of_map hfs "type" rfl
  obtain ⟨field, hfield, hfieldφ⟩ := exists_member?_of_map hfs "field" rfl
  obtain ⟨operator, hoperator, hoperatorφ⟩ := exists_member?_of_map hfs "operator" rfl
  obtain ⟨value, hvalue, hvalueφ⟩ := exists_member?_of_map hfs "value" rfl
  obtain rfl := hφ.text htypeφ
  obtain rfl := hφ.text hoperatorφ
  obtain ⟨v, hv, hcomparand⟩ := h.comparand
  rw [hcomparand, hv.plain_fixed] at hvalueφ
  refine ⟨fs, ⟨field, r.operator, value.fixed⟩, rfl, htype, ?_, ?_⟩
  · simp only [ofEntries?, Value.requiredIn_eq_ok_iff.mpr hfield, Value.requiredIn_eq_ok_iff.mpr hoperator,
      memberD_of_member? hvalue, ok_bind, named_text (Operator.ofName?_name r.operator)]
    rfl
  · unfold mapValues
    rw [hfieldφ, hφ.fixed hv hvalueφ, hcomparand]

namespace Condition

theorem read_rule (inKnot : Value → Result Condition) {es : List (Value × Value)} {r : Rule}
    (htype : Value.member? es "type" = some (.text "rule")) (hr : Rule.ofEntries? es = .ok r) :
    read inKnot (.map es) = .ok (rule r) := by
  rw [read_of_rule inKnot htype, hr]
  rfl

theorem read_group (inKnot : Value → Result Condition) {es : List (Value × Value)} {k : Combinator}
    {vs : List Value} {cs : List Condition}
    (htype : Value.member? es "type" = some (.text "group"))
    (hcombinator : Value.member? es "combinator" = some (.text k.name))
    (hchildren : Value.member? es "children" = some (.list vs))
    (hcs : vs.mapM (read inKnot) = .ok cs) : read inKnot (.map es) = .ok (group k cs) := by
  have hread : readChildren inKnot es = .ok cs := by
    rw [readChildren_eq, hchildren, ← hcs, ← readAll_eq_mapM]
    rfl
  rw [read_of_group inKnot htype, memberD_of_member? hcombinator,
    named_text (Combinator.ofName?_name k), hread]
  rfl

/-- **Conditions come back**, whatever their shape. -/
theorem recovers_read (hφ : Faithful φ) (inKnot : Value → Result Condition) {c : Condition}
    (h : c.Normal) : Recovers φ (read inKnot) (mapValues φ) c.toPayload c := by
  -- on the condition that is written; what is read may have its entries in another order
  induction c using Condition.induction with
  | missing =>
    intro w hw
    obtain rfl := hφ.null hw
    exact ⟨missing, rfl, rfl⟩
  | rule r =>
    intro w hw
    obtain ⟨fs, r', rfl, htype, hr', hlook⟩ := Rule.recovers hφ (h r (List.mem_singleton_self r)) hw
    exact ⟨rule r', read_rule inKnot htype hr', congrArg rule hlook⟩
  | group k cs ih =>
    intro w hw
    have hjson := h.isJson_toPayload
    rw [toPayload_group] at hw hjson
    obtain ⟨fs, rfl, hfs⟩ := hφ.map hjson hw
    obtain ⟨type, htype, htypeφ⟩ := exists_member?_of_map hfs "type" rfl
    obtain ⟨combinator, hcombinator, hcombinatorφ⟩ := exists_member?_of_map hfs "combinator" rfl
    obtain ⟨children, hchildren, hchildrenφ⟩ := exists_member?_of_map hfs "children" rfl
    obtain rfl := hφ.text htypeφ
    obtain rfl := hφ.text hcombinatorφ
    obtain ⟨ws, rfl, hws⟩ := hφ.list hchildrenφ
    obtain ⟨cs', hcs', hlook⟩ := Recovers.mapM (fun c hc => ih c hc (h.of_mem c hc)) ws hws
    refine ⟨group k cs', read_group inKnot htype hcombinator hchildren hcs', ?_⟩
    rw [mapValues_group, mapValues_group, hlook]

theorem recovers (hφ : Faithful φ) {c : Condition} (h : c.Normal) :
    Recovers φ ofPayload? (mapValues φ) c.toPayload c := by
  intro w hw
  rw [ofPayload?_eq (hφ.json h.isJson_toPayload hw)]
  exact recovers_read hφ _ h w hw

theorem isMissing_mapValues (c : Condition) : (c.mapValues φ).isMissing = c.isMissing := by
  cases c <;> rfl

end Condition

theorem Action.recovers (hφ : Faithful φ) {a : Action} (h : a.value.IsJson) :
    Recovers φ Action.ofPayload? (Action.mapValues φ) a.toPayload a := by
  intro w hw
  obtain ⟨fs, rfl, hfs⟩ := hφ.map (Action.isJson_toPayload h) hw
  obtain ⟨kind, hkind, hkindφ⟩ := exists_member?_of_map hfs "kind" rfl
  obtain ⟨value, hvalue, hvalueφ⟩ := exists_member?_of_map hfs "value" rfl
  obtain rfl := hφ.text hkindφ
  refine ⟨⟨a.kind, value⟩, ?_, ?_⟩
  · simp only [ofPayload?, required_map hkind, entries_map, memberD_of_member? hvalue, ok_bind,
      named_text (ActionKind.ofName?_name a.kind)]
    rfl
  · unfold mapValues
    rw [hvalueφ]

theorem RuleRoute.recovers (hφ : Faithful φ) {r : RuleRoute} (h : r.Normal) :
    Recovers φ Route.ofPayload? (Route.mapValues φ) r.toPayload (.rule r) := by
  intro w hw
  obtain ⟨fs, rfl, hfs⟩ := hφ.map h.isJson_toPayload hw
  obtain ⟨id, hid, hidφ⟩ := exists_member?_of_map hfs "id" rfl
  obtain ⟨act, hact, hactφ⟩ := exists_member?_of_map hfs "action" rfl
  obtain ⟨fallback, hfallback, hfallbackφ⟩ := exists_member?_of_map hfs "is_fallback" rfl
  obtain ⟨condition, hcondition, hconditionφ⟩ := exists_member?_of_map hfs "query" rfl
  obtain ⟨hosts, hhosts, hhostsφ⟩ := exists_member?_of_map hfs "attributes_query" rfl
  -- what tells the payload of a reference from that of a rule route is a key that this one lacks
  have hrouter : Value.member? fs "is_router" = none := Option.map_eq_none_iff.mp (hfs "is_router")
  obtain rfl := hφ.text hidφ
  obtain ⟨action, haction, hactionφ⟩ := Action.recovers hφ h.action act hactφ
  obtain ⟨query, hquery, hqueryφ⟩ := Condition.recovers hφ h.query condition hconditionφ
  obtain ⟨attributes, hattributes, hattributesφ⟩ :=
    Condition.recovers hφ h.attributesQuery hosts hhostsφ
  have hgiven : query.isMissing = false := by
    rw [← Condition.isMissing_mapValues, hqueryφ, Condition.isMissing_mapValues]
    cases hq : r.query with
    | missing => exact absurd hq h.given
    | _ => rfl
  refine ⟨.rule ⟨r.id, action, query, attributes, r.isFallback⟩, ?_, ?_⟩
  · have hplain : Value.memberD fs "is_router" .null = .null := by
      unfold Value.memberD
      rw [hrouter]
      rfl
    have hfallbackRead : fallback.isTruthy = r.isFallback := hφ.truthy hfallbackφ
    simp only [Route.ofPayload?, required_map hid, required_map hact, entries_map, hplain,
      memberD_of_member? hcondition, memberD_of_member? hhosts, memberD_of_member? hfallback, ok_bind,
      Value.shown_text, liftM_ok, hquery, haction, hattributes, hgiven, hfallbackRead]
    rfl
  · show Route.rule _ = Route.rule _
    unfold mapValues
    rw [hactionφ, hqueryφ, hattributesφ]

theorem RouterReference.recovers (hφ : Faithful φ) {r : RouterReference} (h : r.Normal) :
    Recovers φ Route.ofPayload? (Route.mapValues φ) r.toPayload (.reference r) := by
  intro w hw
  obtain ⟨fs, rfl, hfs⟩ := hφ.map h.isJson_toPayload hw
  obtain ⟨id, hid, hidφ⟩ := exists_member?_of_map hfs "id" rfl
  obtain ⟨router, hrouter, hrouterφ⟩ := exists_member?_of_map hfs "is_router" rfl
  obtain ⟨name, hname, hnameφ⟩ := exists_member?_of_map hfs "name" rfl
  obtain ⟨description, hdescription, hdescriptionφ⟩ := exists_member?_of_map hfs "description" rfl
  obtain rfl := hφ.text hidφ
  have hgiven : router.isTruthy = true := hφ.truthy hrouterφ
  refine ⟨.reference ⟨r.id, name, description⟩, ?_, ?_⟩
  · simp only [Route.ofPayload?, required_map hid, entries_map, memberD_of_member? hrouter,
      memberD_of_member? hname, memberD_of_member? hdescription, ok_bind, Value.shown_text, liftM_ok,
      hgiven]
    rfl
  · show Route.reference _ = Route.reference _
    unfold mapValues
    rw [hnameφ, hdescriptionφ]

theorem Route.recovers (hφ : Faithful φ) {r : Route} (h : r.Normal) :
    Recovers φ Route.ofPayload? (Route.mapValues φ) r.toPayload r := by
  cases r with
  | rule r => exact RuleRoute.recovers hφ h
  | reference r => exact RouterReference.recovers hφ h

/-- **Forms come back** from everything that looks like their payload. -/
theorem Form.recovers (hφ : Faithful φ) {f : Form} (h : f.Normal) :
    Recovers φ Form.ofPayload? (Form.mapValues φ) f.toPayload f := by
  intro w hw
  obtain ⟨fs, rfl, hfs⟩ := hφ.map h.isJson_toPayload hw
  obtain ⟨id, hid, hidφ⟩ := exists_member?_of_map hfs "id" rfl
  obtain ⟨name, hname, hnameφ⟩ := exists_member?_of_map hfs "name" rfl
  obtain ⟨description, hdescription, hdescriptionφ⟩ := exists_member?_of_map hfs "description" rfl
  obtain ⟨team, hteam, hteamφ⟩ := exists_member?_of_map hfs "team_id" rfl
  obtain ⟨user, huser, huserφ⟩ := exists_member?_of_map hfs "user_id" rfl
  obtain ⟨fieldList, hfieldList, hfieldListφ⟩ := exists_member?_of_map hfs "fields" rfl
  obtain ⟨routeList, hrouteList, hrouteListφ⟩ := exists_member?_of_map hfs "routes" rfl
  obtain rfl := hφ.text hidφ
  obtain ⟨fields, hfields, hfieldsφ⟩ :=
    Recovers.eachItem hφ (fun x hx => Field.recovers hφ (h.fields x hx)) fieldList hfieldListφ
  obtain ⟨routes, hroutes, hroutesφ⟩ :=
    Recovers.eachItem hφ (fun r hr => Route.recovers hφ (h.routes r hr)) routeList hrouteListφ
  refine ⟨⟨f.id, name, description, fields, routes, team, user⟩, ?_, ?_⟩
  · simp only [ofPayload?, required_map hid, entries_map, memberD_of_member? hname,
      memberD_of_member? hdescription, memberD_of_member? hteam, memberD_of_member? huser,
      memberD_of_member? hfieldList, memberD_of_member? hrouteList, ok_bind, Value.shown_text,
      liftM_ok, hfields, hroutes]
    rfl
  · unfold mapValues
    rw [hnameφ, hdescriptionφ, hteamφ, huserφ, hfieldsφ, hroutesφ]

end

/-! ### Payloads of forms that look the same -/

namespace Value

theorem IsJson.arranged {v : Value} (hv : v.IsJson) : v.arranged.IsJson :=
  hv.of_arranged v.arranged hv.arranged_arranged

theorem IsJson.plain_arranged_fixed {v : Value} (hv : v.IsJson) :
    v.fixed.arranged.plain = v.fixed.plain.arranged := by
  rw [hv.arranged_fixed, hv.arranged.plain_fixed, hv.plain_fixed]

theorem arranged_list_map {α : Type} {write : α → Value} {look : α → α} {as : List α}
    (h : ∀ a ∈ as, (write (look a)).arranged = (write a).arranged) :
    (list ((as.map look).map write)).arranged = (list (as.map write)).arranged := by
  rw [arranged_list, arranged_list, List.map_map, List.map_map, List.map_map]
  exact congrArg list (List.map_congr_left h)

end Value

theorem Choice.Normal.arranged_toPayload {c : Choice} (h : c.Normal) :
    (c.mapValues Value.arranged).toPayload.arranged = c.toPayload.arranged := by
  simp only [toPayload, mapValues, Value.arranged_map, List.map_cons, List.map_nil,
    h.label.arranged_arranged]

theorem Field.Normal.arranged_toPayload {f : Field} (h : f.Normal) :
    (f.mapValues Value.arranged).toPayload.arranged = f.toPayload.arranged := by
  have hchoices := Value.arranged_list_map fun c hc => (h.choices c hc).arranged_toPayload
  simp only [toPayload, mapValues, choicesToPayload, Value.arranged_map, List.map_cons, List.map_nil,
    h.id.arranged_arranged, h.label.arranged_arranged, h.identifier.arranged_arranged, hchoices]

theorem Rule.Normal.arranged_toPayload {r : Rule} (h : r.Normal) :
    (r.mapValues Value.arranged).toPayload.arranged = r.toPayload.arranged := by
  obtain ⟨v, hv, hcomparand⟩ := h.comparand
  have hvalue : r.comparand.arranged.plain.arranged = r.comparand.plain.arranged := by
    rw [hcomparand, hv.plain_arranged_fixed, hv.plain_fixed, hv.arranged_arranged]
  simp only [toPayload, mapValues, Value.arranged_map, List.map_cons, List.map_nil,
    h.field.arranged_arranged, hvalue]

theorem Condition.Normal.arranged_toPayload {c : Condition} (h : c.Normal) :
    (c.mapValues Value.arranged).toPayload.arranged = c.toPayload.arranged := by
  induction c using Condition.induction with
  | missing => rfl
  | rule r => exact (h r (List.mem_singleton_self r)).arranged_toPayload
  | group k cs ih =>
    have hchildren := Value.arranged_list_map fun c hc => ih c hc (h.of_mem c hc)
    rw [mapValues_group, toPayload_group, toPayload_group]
    simp only [Value.arranged_map, List.map_cons, List.map_nil, hchildren]

theorem Action.arranged_toPayload {a : Action} (h : a.value.IsJson) :
    (a.mapValues Value.arranged).toPayload.arranged = a.toPayload.arranged := by
  simp only [toPayload, mapValues, Value.arranged_map, List.map_cons, List.map_nil,
    h.arranged_arranged]

theorem Route.Normal.arranged_toPayload {r : Route} (h : r.Normal) :
    (r.mapValues Value.arranged).toPayload.arranged = r.toPayload.arranged := by
  cases r with
  | rule r =>
    have hr : r.Normal := h
    have haction := Action.arranged_toPayload hr.action
    have hquery := hr.query.arranged_toPayload
    have hattributes := hr.attributesQuery.arranged_toPayload
    simp only [toPayload, mapValues, RuleRoute.toPayload, RuleRoute.mapValues, Value.arranged_map,
      List.map_cons, List.map_nil, haction, hquery, hattributes]
  | reference r =>
    have hr : r.Normal := h
    simp only [toPayload, mapValues, RouterReference.toPayload, RouterReference.mapValues,
      Value.arranged_map, List.map_cons, List.map_nil, hr.name.arranged_arranged,
      hr.description.arranged_arranged]

/-- The sorted payload of a form depends on nothing but the form with sorted values. -/
theorem Form.Normal.arranged_toPayload {f : Form} (h : f.Normal) :
    (f.mapValues Value.arranged).toPayload.arranged = f.toPayload.arranged := by
  have hfields := Value.arranged_list_map fun x hx => (h.fields x hx).arranged_toPayload
  have hroutes := Value.arranged_list_map fun r hr => (h.routes r hr).arranged_toPayload
  simp only [toPayload, mapValues, Value.arranged_map, List.map_cons, List.map_nil,
    h.name.arranged_arranged, h.description.arranged_arranged, h.team.arranged_arranged,
    h.user.arranged_arranged, hfields, hroutes]

/-! ### Round trips -/

namespace Form

theorem ofPayload?_toPayload {f : Form} (h : f.Normal) : ofPayload? f.toPayload = .ok f := by
  obtain ⟨g, hread, hlook⟩ := Form.recovers faithful_id h f.toPayload rfl
  rw [mapValues_self, mapValues_self] at hlook
  rw [hread, hlook]

theorem toJson_of_arranged {f : Form} (h : f.Normal) {w : Value}
    (hw : w.arranged = f.toPayload.arranged) :
    ∃ g, ofPayload? w = .ok g ∧ g.mapValues Value.arranged = f.mapValues Value.arranged ∧
      g.toJson = f.toJson := by
  obtain ⟨g, hread, hlook⟩ := Form.recovers faithful_arranged h w hw
  have hg : g.Normal := normal_of_ofPayload? (h.isJson_toPayload.of_arranged w hw) hread
  have hpayload : g.toPayload.arranged = f.toPayload.arranged := by
    rw [← hg.arranged_toPayload, hlook, h.arranged_toPayload]
  exact ⟨g, hread, hlook, Json.write_canonical_congr h.isJson_toPayload hpayload⟩

/-- **A form that was read from a JSON value is not changed by being kept.** From its payload the form
itself is read back, so the payload comes back too. And if the text of its payload is read back as the
payload, then from its text the form is read back, up to the order of the entries in its values, and
has the same text again. -/
theorem codec_lossless (v : Value) (f : Form) (hv : v.IsJson) (hf : ofPayload? v = .ok f) :
    ofPayload? f.toPayload = .ok f ∧
      (ofPayload? f.toPayload).map toPayload = .ok f.toPayload ∧
      f.toPayload.IsJson ∧
      (Json.Keeps f.toPayload → ∃ text g, f.toJson = .ok text ∧ ofJson? text = .ok g ∧
        g.mapValues Value.arranged = f.mapValues Value.arranged ∧ g.toJson = .ok text) := by
  have hnormal := normal_of_ofPayload? hv hf
  have hback := ofPayload?_toPayload hnormal
  refine ⟨hback, by rw [hback]; rfl, hnormal.isJson_toPayload, ?_⟩
  rintro ⟨text, w, htext, hw, hsame⟩
  obtain ⟨g, hread, hlook, hagain⟩ := toJson_of_arranged hnormal hsame
  refine ⟨text, g, htext, ?_, hlook, hagain.trans htext⟩
  unfold ofJson?
  rw [hw, ok_bind]
  exact hread

/-! ### A form and its text -/

/-- A rule with a list as its comparand. -/
def sizeRule : Rule := ⟨.text "size", .selectAnyIn, .tuple [.text "s", .text "m"]⟩

def sizeRoute : RuleRoute := ⟨"r", ⟨.customMessage, .text ""⟩, .rule sizeRule, .missing, false⟩

/-- A form that keeps two sizes and hands everything else on to another form. -/
def delegating : Form :=
  ⟨"7", .text "", .text "", [], [.rule sizeRoute, .reference ⟨"eu", .text "", .text ""⟩], .null,
    .null⟩

theorem normal_sizeRule : sizeRule.Normal :=
  ⟨.text "size", .list [.text "s", .text "m"], .list (by simp [IsJson.text]), rfl⟩

theorem normal_sizeRoute : sizeRoute.Normal :=
  ⟨.text "", fun _ hr => List.mem_singleton.mp hr ▸ normal_sizeRule, nofun, nofun⟩

theorem normal_delegating : delegating.Normal := by
  refine ⟨.text "", .text "", .null, .null, nofun, fun r hr => ?_⟩
  rcases List.mem_cons.mp hr with rfl | hr
  · exact normal_sizeRoute
  · rw [List.mem_singleton.mp hr]
    exact ⟨.text "", .text ""⟩

/-- The payload of the route with its entries sorted. -/
def sizeRouteArranged : Value :=
  .map [(.text "action", .map [(.text "kind", .text "custom_message"), (.text "value", .text "")]),
    (.text "attributes_query", .null), (.text "id", .text "r"), (.text "is_fallback", .bool false),
    (.text "query", .map [(.text "field", .text "size"), (.text "operator", .text "select_any_in"),
      (.text "type", .text "rule"), (.text "value", .list [.text "s", .text "m"])])]

theorem arranged_sizeRoute : sizeRoute.toPayload.arranged = sizeRouteArranged := by
  have haction := (Action.isJson_toPayload (a := sizeRoute.action) (.text "")).arranged_map_of_order
    [0, 1] (by decide) (by decide)
  have hquery := normal_sizeRule.isJson_toPayload.arranged_map_of_order [1, 2, 0, 3] (by decide)
    (by decide)
  refine (normal_sizeRoute.isJson_toPayload.arranged_map_of_order [1, 4, 0, 2, 3] (by decide)
    (by decide)).trans ?_
  show Value.map [(_, sizeRoute.action.toPayload.arranged), _, _, _,
    (_, sizeRule.toPayload.arranged)] = sizeRouteArranged
  rw [Action.toPayload, haction, Rule.toPayload, hquery]
  rfl

/-- The payload of the form with its entries sorted. -/
def delegatingArranged : Value :=
  .map [(.text "description", .text ""), (.text "fields", .list []), (.text "id", .text "7"),
    (.text "name", .text ""), (.text "routes", .list [sizeRouteArranged,
      .map [(.text "description", .text ""), (.text "id", .text "eu"), (.text "is_router", .bool true),
        (.text "name", .text "")]]), (.text "team_id", .null), (.text "user_id", .null)]

theorem arranged_delegating : delegating.toPayload.arranged = delegatingArranged := by
  let reference : RouterReference := ⟨"eu", .text "", .text ""⟩
  have hnormal : reference.Normal := ⟨.text "", .text ""⟩
  have hreference := hnormal.isJson_toPayload.arranged_map_of_order [3, 0, 1, 2] (by decide)
    (by decide)
  refine (normal_delegating.isJson_toPayload.arranged_map_of_order [2, 5, 0, 1, 6, 3, 4]
    (by decide) (by decide)).trans ?_
  show Value.map [_, _, _, _, (_, .list [sizeRoute.toPayload.arranged, reference.toPayload.arranged]),
    _, _] = delegatingArranged
  rw [arranged_sizeRoute, RouterReference.toPayload, hreference]
  rfl

set_option maxRecDepth 4000 in
theorem keeps_delegating : Json.Keeps delegating.toPayload := by
  let text : String := "\x7b\"description\": \"\", \"fields\": [], \"id\": \"7\", " ++
    "\"name\": \"\", \"routes\": [\x7b\"action\": \x7b\"kind\": \"custom_message\", " ++
    "\"value\": \"\"\x7d, \"attributes_query\": null, \"id\": \"r\", \"is_fallback\": false, " ++
    "\"query\": \x7b\"field\": \"size\", \"operator\": \"select_any_in\", \"type\": \"rule\", " ++
    "\"value\": [\"s\", \"m\"]\x7d\x7d, \x7b\"description\": \"\", \"id\": \"eu\", " ++
    "\"is_router\": true, \"name\": \"\"\x7d], \"team_id\": null, \"user_id\": null\x7d"
  have htext : Json.write Json.compact delegatingArranged = .ok text := by rfl
  have hread : Json.read text = .ok delegatingArranged := by
    unfold Json.read
    simp only [text, String.toList_append, String.reduceToList, List.cons_append, List.nil_append]
    rfl
  refine ⟨text, delegatingArranged, ?_, hread, ?_⟩
  · rw [Json.write_canonical normal_delegating.isJson_toPayload, arranged_delegating, htext]
  · rw [← arranged_delegating, normal_delegating.isJson_toPayload.arranged_arranged]

/-- The id was a number, and much was left out. The sizes come back as a list, and are read as a tuple
again. -/
theorem codec_lossless_delegating :
    let sizes : Value := .list [.text "s", .text "m"]
    let v : Value := .map [(.text "id", .int 7),
      (.text "routes", .list [
        .map [(.text "id", .text "r"), (.text "action", .map [(.text "kind", .text "custom_message")]),
          (.text "query", .map [(.text "type", .text "rule"), (.text "field", .text "size"),
            (.text "operator", .text "select_any_in"), (.text "value", sizes)])],
        .map [(.text "is_router", .bool true), (.text "id", .text "eu")]])]
    v.IsJson ∧ ofPayload? v = .ok delegating ∧ ofPayload? delegating.toPayload = .ok delegating ∧
      ∃ text g, delegating.toJson = .ok text ∧ ofJson? text = .ok g ∧
        g.mapValues Value.arranged = delegating.mapValues Value.arranged ∧ g.toJson = .ok text := by
  intro sizes v
  let action : Value := .map [(.text "kind", .text "custom_message")]
  let query : Value := .map [(.text "type", .text "rule"), (.text "field", .text "size"),
    (.text "operator", .text "select_any_in"), (.text "value", sizes)]
  let rule : Value := .map [(.text "id", .text "r"), (.text "action", action), (.text "query", query)]
  let reference : Value := .map [(.text "is_router", .bool true), (.text "id", .text "eu")]
  have haction : action.IsJson :=
    Value.isJson_record (l := [("kind", .text "custom_message")]) (by simp) (by simp [IsJson.text])
  have hsizes : sizes.IsJson := .list (by simp [IsJson.text])
  have hquery : query.IsJson :=
    Value.isJson_record (l := [("type", .text "rule"), ("field", .text "size"),
      ("operator", .text "select_any_in"), ("value", sizes)]) (by simp) (by simp [IsJson.text, hsizes])
  have hrule : rule.IsJson :=
    Value.isJson_record (l := [("id", .text "r"), ("action", action), ("query", query)]) (by simp)
      (by simp [IsJson.text, haction, hquery])
  have hreference : reference.IsJson :=
    Value.isJson_record (l := [("is_router", .bool true), ("id", .text "eu")]) (by simp)
      (by simp [IsJson.bool, IsJson.text])
  have hroutes : (Value.list [rule, reference]).IsJson := .list (by simp [hrule, hreference])
  have hv : v.IsJson :=
    Value.isJson_record (l := [("id", .int 7), ("routes", .list [rule, reference])]) (by simp)
      (by simp [IsJson.int, hroutes])
  have hread : ofPayload? v = .ok delegating := by rfl
  obtain ⟨hback, -, -, htext⟩ := codec_lossless v delegating hv hread
  exact ⟨hv, hread, hback, htext keeps_delegating⟩

end Form

end SubmissionRouting
