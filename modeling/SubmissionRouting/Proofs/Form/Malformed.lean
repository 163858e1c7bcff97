import SubmissionRouting.Proofs.Condition.Reading
import SubmissionRouting.Proofs.Value.Written

/-! # Malformed payloads

A JSON value that no form can be read from is refused with a fault of the payload. Two things come
before that fault (`Form.ofPayload?_malformed`): where a list is expected there may stand a value
without items (`Value.Misshapen`), and a whole number may have too many digits to be made a text
(`Value.HoldsTooLong`). The faults of a part are faults of the whole (`Fault.OfPayload.of_part`), so
each reader has one lemma on the payload it is given. -/

namespace SubmissionRouting

open Value (IsJson Part)

/-! ### Faults of a payload -/

/-- A mapping that is part of the value has something without items under a key whose items are
read. Those of `options` are read only if something is given. -/
def Value.Misshapen (d : Value) : Prop :=
  ∃ es key x, Part (map es) d ∧ member? es key = some x ∧ x.items = .error .notIterable ∧
    (key ∈ ["fields", "routes", "children"] ∨ key = "options" ∧ x.isTruthy = true)

/-- What the reading of a JSON value can fail with. -/
def Fault.OfPayload (d : Value) : Fault → Prop
  | payload _ => True
  | misuse .notIterable => d.Misshapen
  | misuse .tooManyDigits => d.HoldsTooLong
  | _ => False

/-- What a reader can fail with that names a value in its fault. -/
def Fault.OfText (v : Value) : Fault → Prop
  | payload _ => True
  | misuse .tooManyDigits => v.HoldsTooLong
  | _ => False

theorem Fault.OfText.ofPayload {v : Value} {e : Fault} (h : e.OfText v) : e.OfPayload v := by
  cases e with
  | payload cause => trivial
  | misuse m =>
    cases m with
    | tooManyDigits => exact h
    | _ => exact h.elim
  | _ => exact h.elim

/-- A value that stands for what a payload leaves out: nothing, a text, or the empty list. -/
def Value.Bare : Value → Prop
  | null | text _ | list [] => True
  | _ => False

theorem Value.Bare.inside_eq_nil {v : Value} (h : v.Bare) : v.inside = [] := by
  cases v with
  | list vs =>
    cases vs with
    | nil => rfl
    | cons v vs => exact h.elim
  | null | text => rfl
  | _ => exact h.elim

theorem Value.Misshapen.of_part {x d : Value} (h : x.Misshapen) (hx : Part x d) : d.Misshapen := by
  obtain ⟨es, key, w, hes, hw⟩ := h
  exact ⟨es, key, w, hes.trans hx, hw⟩

namespace Fault.OfPayload

variable {x d : Value} {e : Fault}

/-- **The faults of a part are faults of the whole.** -/
theorem of_part (h : e.OfPayload x) (hx : Part x d) : e.OfPayload d := by
  cases e with
  | payload cause => trivial
  | misuse m =>
    cases m with
    | notIterable => exact Value.Misshapen.of_part h hx
    | tooManyDigits => exact Value.HoldsTooLong.of_part h hx
    | _ => exact h
  | _ => exact h

/-- What stands for a missing part has no faults but those of a payload. -/
theorem of_bare (h : e.OfPayload x) (hx : x.Bare) : e.OfPayload d := by
  have hself (y : Value) (hy : Part y x) : y = x := by
    rcases hy.eq_or_inside with rfl | ⟨w, hw, -⟩
    · rfl
    · rw [hx.inside_eq_nil] at hw
      cases hw
  cases e with
  | payload cause => trivial
  | misuse m =>
    cases m with
    | notIterable =>
      obtain ⟨es, _, _, hes, -⟩ := (h : x.Misshapen)
      rw [← hself _ hes] at hx
      exact hx.elim
    | tooManyDigits =>
      obtain ⟨n, hn, -⟩ := (h : x.HoldsTooLong)
      rw [← hself _ hn] at hx
      exact hx.elim
    | _ => exact h.elim
  | _ => exact h.elim

end Fault.OfPayload

section
variable {α : Type} {x d : Value} {r : Result α}

theorem FailsOnly.of_part (h : FailsOnly (Fault.OfPayload x) r) (hx : Part x d) :
    FailsOnly (Fault.OfPayload d) r := h.mono fun _ he => he.of_part hx

theorem FailsOnly.of_bare_or_part (h : FailsOnly (Fault.OfPayload x) r)
    (hx : x.Bare ∨ Part x d) : FailsOnly (Fault.OfPayload d) r :=
  h.mono fun _ he => hx.elim he.of_bare he.of_part

end

namespace Value

/-! ### Values of payloads -/

theorem ofText_shown (v : Value) : FailsOnly (Fault.OfText v) (orFault v.shown) := by
  refine failsOnly_orFault ((failsOnly_shown v).mono ?_)
  rintro m ⟨rfl, hlong⟩
  exact hlong

theorem ofText_literal (v : Value) : FailsOnly (Fault.OfText v) (orFault v.literal) := by
  refine failsOnly_orFault ((failsOnly_literal v).mono ?_)
  rintro m ⟨rfl, hlong⟩
  exact hlong

theorem ofText_unknownName {α : Type} (vocabulary : Vocabulary) (v : Value) :
    FailsOnly (Fault.OfText v) (unknownName vocabulary v : Result α) :=
  (ofText_literal v).bind fun _ _ => failsOnly_error trivial

theorem ofText_named {α : Type} (vocabulary : Vocabulary) (ofName? : String → Option α)
    (v : Value) : FailsOnly (Fault.OfText v) (v.named vocabulary ofName?) := by
  unfold named
  split
  · split
    · exact failsOnly_ok _
    · exact ofText_unknownName vocabulary _
  · exact ofText_unknownName vocabulary v

theorem failsOnly_orFault_shown (v : Value) :
    FailsOnly (Fault.OfPayload v) (orFault v.shown) :=
  (ofText_shown v).mono fun _ => Fault.OfText.ofPayload

theorem failsOnly_named {α : Type} (vocabulary : Vocabulary) (ofName? : String → Option α)
    (v : Value) : FailsOnly (Fault.OfPayload v) (v.named vocabulary ofName?) :=
  (ofText_named vocabulary ofName? v).mono fun _ => Fault.OfText.ofPayload

theorem failsOnly_entries (v d : Value) : FailsOnly (Fault.OfPayload d) v.entries := by
  unfold entries
  split
  · exact failsOnly_ok _
  · exact failsOnly_error trivial

theorem failsOnly_requiredIn (es : List (Value × Value)) (key : String) (d : Value) :
    FailsOnly (Fault.OfPayload d) (requiredIn es key) := by
  unfold requiredIn
  split
  · exact failsOnly_ok _
  · exact failsOnly_error trivial

theorem failsOnly_required (v : Value) (key : String) (d : Value) :
    FailsOnly (Fault.OfPayload d) (v.required key) :=
  (failsOnly_entries v d).bind fun es _ => failsOnly_requiredIn es key d

section
variable {v : Value}

theorem bare_or_part_memberD (es : List (Value × Value)) (key : String) (default : Value)
    (hbare : default.Bare) :
    (memberD es key default).Bare ∨ Part (memberD es key default) (.map es) := by
  rcases memberD_cases es key default with hnone | hmember
  · rw [hnone]
    exact .inl hbare
  · exact .inr (.of_inside hmember (Part.refl _))

theorem items_eq_error {m : Misuse} (h : v.items = .error m) : m = .notIterable := by
  unfold items at h
  cases hv : v.opened <;> rw [hv] at h <;> cases h
  all_goals rfl

theorem failsOnly_eachItem {α : Type} {d : Value} {read : Value → Result α} (hv : v.IsJson)
    (hpart : v.Bare ∨ Part v d) (hitems : v.items = .error .notIterable → d.Misshapen)
    (hread : ∀ x, x.IsJson → (x ∈ v.inside ∨ ∃ s, x = .text s) →
      FailsOnly (Fault.OfPayload x) (read x)) :
    FailsOnly (Fault.OfPayload d) (v.eachItem read) := by
  have hfault : FailsOnly (Fault.OfPayload d) (orFault v.items) := by
    refine failsOnly_orFault fun m hm => ?_
    obtain rfl := items_eq_error hm
    exact hitems hm
  refine hfault.bind fun vs hvs => failsOnly_mapM fun x hx => ?_
  have hok : v.items = .ok vs := orFault_eq_ok_iff.mp hvs
  have hplace := mem_inside_of_items hv.opened hok hx
  refine (hread x (hv.of_items hok x hx) hplace).of_bare_or_part ?_
  rcases hplace with hinside | ⟨s, rfl⟩
  · rcases hpart with hbare | hpart
    · rw [hbare.inside_eq_nil] at hinside
      cases hinside
    · exact .inr ((Part.of_inside hinside (Part.refl x)).trans hpart)
  · exact .inl trivial

theorem failsOnly_eachItem_memberD {α : Type} {es : List (Value × Value)} {key : String}
    {read : Value → Result α} (hes : (Value.map es).IsJson)
    (hkey : key ∈ ["fields", "routes", "children"])
    (hread : ∀ x, x.IsJson → ((∃ w ∈ (map es).inside, x ∈ w.inside) ∨ ∃ s, x = .text s) →
      FailsOnly (Fault.OfPayload x) (read x)) :
    FailsOnly (Fault.OfPayload (.map es)) ((memberD es key (.list [])).eachItem read) := by
  refine failsOnly_eachItem (IsJson.memberD hes.of_map key isJson_nil)
    (bare_or_part_memberD es key (.list []) trivial) (fun hitems => ?_) fun x hx hplace => ?_
  · unfold memberD at hitems
    cases hw : member? es key with
    | none => rw [hw] at hitems; cases hitems
    | some w =>
      rw [hw] at hitems
      exact ⟨es, key, w, Part.refl _, hw, hitems, .inl hkey⟩
  · refine hread x hx (hplace.imp_left fun hinside => ?_)
    rcases memberD_cases es key (.list []) with hnone | hmember
    · rw [hnone] at hinside
      cases hinside
    · exact ⟨_, hmember, hinside⟩

end

end Value

/-! ### Readers -/

theorem Choice.failsOnly_ofPayload? {v : Value} (hv : v.IsJson) :
    FailsOnly (Fault.OfPayload v) (Choice.ofPayload? v) := by
  unfold Choice.ofPayload?
  refine (v.failsOnly_required "id" v).bind fun x hx => ?_
  refine (x.failsOnly_orFault_shown.of_part (hv.part_of_required hx)).bind fun id _ => ?_
  exact (v.failsOnly_required "label" v).bind fun label _ => failsOnly_ok _

theorem failsOnly_choicesOfPayload? {es : List (Value × Value)} (hes : (Value.map es).IsJson) :
    FailsOnly (Fault.OfPayload (.map es))
      (choicesOfPayload? (Value.memberD es "options" .null)) := by
  have hoptions : (Value.memberD es "options" .null).IsJson := IsJson.memberD hes.of_map _ .null
  unfold choicesOfPayload? Value.orElse
  split
  · next hgiven =>
    refine Value.failsOnly_eachItem hoptions (Value.bare_or_part_memberD es "options" .null trivial)
      (fun hitems => ?_) fun x hx _ => Choice.failsOnly_ofPayload? hx
    unfold Value.memberD at hitems hgiven
    cases hw : Value.member? es "options" with
    | none => rw [hw] at hgiven; cases hgiven
    | some w =>
      rw [hw] at hitems hgiven
      exact ⟨es, "options", w, Part.refl _, hw, hitems, .inr ⟨rfl, hgiven⟩⟩
  · exact failsOnly_ok []

theorem Field.failsOnly_ofPayload? {v : Value} (hv : v.IsJson) :
    FailsOnly (Fault.OfPayload v) (Field.ofPayload? v) := by
  unfold Field.ofPayload?
  refine (v.failsOnly_required "id" v).bind fun id _ => ?_
  refine (v.failsOnly_entries v).bind fun es hes => ?_
  obtain rfl := hv.eq_map_of_entries hes
  refine ((Value.failsOnly_named _ _ _).of_bare_or_part
    (Value.bare_or_part_memberD es "type" (.text "text") trivial)).bind fun kind _ => ?_
  exact (failsOnly_choicesOfPayload? hv).bind fun choices _ => failsOnly_ok _

theorem Rule.failsOnly_ofEntries? (es : List (Value × Value)) :
    FailsOnly (Fault.OfPayload (.map es)) (Rule.ofEntries? es) := by
  unfold Rule.ofEntries?
  refine (Value.failsOnly_requiredIn es "field" _).bind fun field _ => ?_
  refine (Value.failsOnly_requiredIn es "operator" _).bind fun x hx => ?_
  exact ((Value.failsOnly_named _ _ x).of_part (Value.part_of_requiredIn hx)).bind
    fun operator _ => failsOnly_ok _

/-- **A condition that cannot be read** is a fault of its payload. -/
theorem Condition.failsOnly_read (inKnot : Value → Result Condition) {v : Value} (hv : v.IsJson) :
    FailsOnly (Fault.OfPayload v) (Condition.read inKnot v) := by
  -- on all parts, as children are read from the items of a part
  induction v using Part.induction with
  | step v ih =>
    cases hv with
    | null => exact failsOnly_ok _
    | @map es keyed values =>
      have hes : (Value.map es).IsJson := .map keyed values
      rcases Condition.type_cases es with hnone | hgroup | hrule | ⟨type, htype, hgroup, hrule⟩
      · rw [Condition.read_of_no_type inKnot hnone]
        exact failsOnly_error trivial
      · rw [Condition.read_of_group inKnot hgroup,
          Condition.readChildren_eq_eachItem inKnot values]
        refine ((Value.failsOnly_named _ _ _).of_bare_or_part
          (Value.bare_or_part_memberD es "combinator" (.text "AND") trivial)).bind fun k _ => ?_
        refine (Value.failsOnly_eachItem_memberD hes (by simp) fun x hx hplace => ?_).bind
          fun children _ => failsOnly_ok _
        rcases hplace with ⟨w, hw, hinside⟩ | ⟨s, rfl⟩
        · exact ih w hw x (.of_inside hinside (Part.refl x)) hx
        · exact failsOnly_error trivial
      · rw [Condition.read_of_rule inKnot hrule]
        exact (Rule.failsOnly_ofEntries? es).map Condition.rule
      · rw [Condition.read_of_other inKnot htype hgroup hrule]
        have hpart := Value.part_of_requiredIn (Value.requiredIn_eq_ok_iff.mpr htype)
        exact (type.failsOnly_orFault_shown.of_part hpart).bind fun s _ => failsOnly_error trivial
    | _ => exact failsOnly_error trivial

theorem Condition.failsOnly_ofPayload? {v : Value} (hv : v.IsJson) :
    FailsOnly (Fault.OfPayload v) (Condition.ofPayload? v) := by
  rw [Condition.ofPayload?_eq hv]
  exact Condition.failsOnly_read _ hv

theorem Action.failsOnly_ofPayload? {v : Value} (hv : v.IsJson) :
    FailsOnly (Fault.OfPayload v) (Action.ofPayload? v) := by
  unfold Action.ofPayload?
  refine (v.failsOnly_required "kind" v).bind fun x hx => ?_
  refine ((Value.failsOnly_named _ _ x).of_part (hv.part_of_required hx)).bind fun kind _ => ?_
  exact (v.failsOnly_entries v).bind fun es _ => failsOnly_ok _

theorem Route.failsOnly_ofPayload? {v : Value} (hv : v.IsJson) :
    FailsOnly (Fault.OfPayload v) (Route.ofPayload? v) := by
  unfold Route.ofPayload?
  refine (v.failsOnly_required "id" v).bind fun x hx => ?_
  refine (x.failsOnly_orFault_shown.of_part (hv.part_of_required hx)).bind fun id _ => ?_
  refine (v.failsOnly_entries v).bind fun es hes => ?_
  split
  · exact failsOnly_ok _
  · have hcondition (key : String) : FailsOnly (Fault.OfPayload v)
        (Condition.ofPayload? (Value.memberD es key .null)) := by
      obtain rfl := hv.eq_map_of_entries hes
      exact (Condition.failsOnly_ofPayload? (IsJson.memberD hv.of_map key .null)).of_bare_or_part
        (Value.bare_or_part_memberD es key .null trivial)
    refine (hcondition "query").bind fun query _ => ?_
    refine (v.failsOnly_required "action" v).bind fun y hy => ?_
    refine ((Action.failsOnly_ofPayload? (hv.of_required hy)).of_part
      (hv.part_of_required hy)).bind fun action _ => ?_
    exact (hcondition "attributes_query").bind fun attributesQuery _ => failsOnly_ok _

theorem Form.failsOnly_ofPayload? {v : Value} (hv : v.IsJson) :
    FailsOnly (Fault.OfPayload v) (Form.ofPayload? v) := by
  unfold Form.ofPayload?
  refine (v.failsOnly_required "id" v).bind fun x hx => ?_
  refine (x.failsOnly_orFault_shown.of_part (hv.part_of_required hx)).bind fun id _ => ?_
  refine (v.failsOnly_entries v).bind fun es hes => ?_
  obtain rfl := hv.eq_map_of_entries hes
  refine (Value.failsOnly_eachItem_memberD hv (by simp) fun x hx _ =>
    Field.failsOnly_ofPayload? hx).bind fun fields _ => ?_
  refine (Value.failsOnly_eachItem_memberD hv (by simp) fun x hx _ =>
    Route.failsOnly_ofPayload? hx).bind fun routes _ => ?_
  exact failsOnly_ok _

/-! ### Forms -/

/-- **A malformed form is refused with a fault of the payload**, unless something without items
stands where a list is expected, or a whole number has too many digits. -/
theorem Form.ofPayload?_malformed {d : Value} (hd : d.IsJson) :
    (∃ f, Form.ofPayload? d = .ok f) ∨
    (∃ cause, Form.ofPayload? d = .error (.payload cause)) ∨
    (Form.ofPayload? d = .error (.misuse .notIterable) ∧ d.Misshapen) ∨
    (Form.ofPayload? d = .error (.misuse .tooManyDigits) ∧ d.HoldsTooLong) := by
  have hfails := Form.failsOnly_ofPayload? hd
  cases h : Form.ofPayload? d with
  | ok f => exact .inl ⟨f, rfl⟩
  | error e =>
    have he : e.OfPayload d := hfails e h
    cases e with
    | payload cause => exact .inr (.inl ⟨cause, rfl⟩)
    | misuse m =>
      cases m with
      | notIterable => exact .inr (.inr (.inl ⟨rfl, he⟩))
      | tooManyDigits => exact .inr (.inr (.inr ⟨rfl, he⟩))
      | _ => exact he.elim
    | _ => exact he.elim

/-- A number where the children of a group in the condition of a route are expected. -/
theorem Form.ofPayload?_malformed_children :
    let query : Value := .map [(.text "type", .text "group"), (.text "children", .int 7)]
    let route : Value := .map [(.text "id", .text "r"), (.text "query", query)]
    let d : Value := .map [(.text "id", .text "a"), (.text "routes", .list [route])]
    Form.ofPayload? d = .error (.misuse .notIterable) ∧ d.Misshapen := by
  intro query route d
  have hquery : query.IsJson :=
    Value.isJson_record (l := [("type", .text "group"), ("children", .int 7)]) (by simp)
      (by simp [IsJson.text, IsJson.int])
  have hroute : route.IsJson :=
    Value.isJson_record (l := [("id", .text "r"), ("query", query)]) (by simp)
      (by simp [IsJson.text, hquery])
  have hd : d.IsJson :=
    Value.isJson_record (l := [("id", .text "a"), ("routes", .list [route])]) (by simp)
      (by simp [IsJson.text, IsJson.list, hroute])
  have hread : Form.ofPayload? d = .error (.misuse .notIterable) := rfl
  rcases Form.ofPayload?_malformed hd with ⟨f, h⟩ | ⟨cause, h⟩ | ⟨h, hshape⟩ | ⟨h, -⟩
  · rw [hread] at h; cases h
  · rw [hread] at h; cases h
  · exact ⟨h, hshape⟩
  · rw [hread] at h; cases h

/-- Where null stands for the fields of a form, no fault of the payload is given. -/
theorem Form.ofPayload?_null_fields :
    let d : Value := .map [(.text "id", .text "a"), (.text "fields", .null)]
    d.IsJson ∧ Form.ofPayload? d = .error (.misuse .notIterable) :=
  ⟨Value.isJson_record (l := [("id", .text "a"), ("fields", .null)]) (by simp)
    (by simp [IsJson.text, IsJson.null]), rfl⟩

end SubmissionRouting
