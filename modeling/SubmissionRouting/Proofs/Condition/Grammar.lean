import SubmissionRouting.Proofs.Form.Malformed
import SubmissionRouting.Proofs.Form.Normal
import SubmissionRouting.Proofs.Value.Shown

/-! # The payloads of conditions

Which JSON values are payloads of conditions is said without reading them (`Condition.HasForm`), together
with the form in which the condition is written: no keys but the known ones, and a value under each of
them. A JSON value in which children are lists is read if and only if it is such a payload, and what is
read from it is written in that form (`Condition.ofPayload?_grammar`). Any other one is refused with a
fault of the payload, unless that fault would have to show a whole number with too many digits in the
place of a name (`Value.LongName`). -/

namespace SubmissionRouting

open Value (IsJson Part)

/-! ### The grammar -/

/-- The value is the payload of a condition that is written in the given form. -/
inductive Condition.HasForm : Value → Value → Prop
  | missing : HasForm .null .null
  | rule {es : List (Value × Value)} {field : Value} {o : Operator}
    (isRule : Value.member? es "type" = some (.text "rule"))
    (onField : Value.member? es "field" = some field)
    (byOperator : Value.member? es "operator" = some (.text o.name)) :
    HasForm (.map es) (.map [(.text "type", .text "rule"), (.text "field", field),
      (.text "operator", .text o.name), (.text "value", Value.memberD es "value" .null)])
  | group {es : List (Value × Value)} {k : Combinator} {children forms : List Value}
    (isGroup : Value.member? es "type" = some (.text "group"))
    (byCombinator : Value.memberD es "combinator" (.text "AND") = .text k.name)
    (listed : Value.memberD es "children" (.list []) = .list children)
    (each : List.Forall₂ HasForm children forms) :
    HasForm (.map es) (.map [(.text "type", .text "group"), (.text "combinator", .text k.name),
      (.text "children", .list forms)])

/-- Wherever `children` is a key in the value, a list stands under it. -/
def Value.ChildrenListed (d : Value) : Prop :=
  ∀ es x, Part (map es) d → member? es "children" = some x → ∃ children, x = list children

/-- A mapping that is part of the value has a whole number with too many digits, or something that
holds one, where the name of a type, of a combinator or of an operator is expected. -/
def Value.LongName (d : Value) : Prop :=
  ∃ es key x, Part (map es) d ∧ key ∈ ["type", "combinator", "operator"] ∧
    member? es key = some x ∧ x.HoldsTooLong

/-- What the reading of a condition can fail with. -/
def Fault.OfCondition (d : Value) : Fault → Prop
  | payload _ => True
  | misuse .tooManyDigits => d.LongName
  | _ => False

namespace Value.ChildrenListed

variable {d : Value}

theorem of_part {x : Value} (h : d.ChildrenListed) (hx : Part x d) : x.ChildrenListed :=
  fun es v hes => h es v (hes.trans hx)

theorem iff_inside :
    d.ChildrenListed ↔
      (∀ es x, d = map es → member? es "children" = some x → ∃ children, x = list children) ∧
        ∀ w ∈ d.inside, w.ChildrenListed := by
  constructor
  · intro h
    exact ⟨fun es x hes => h es x (hes ▸ Part.refl d),
      fun w hw => h.of_part (.of_inside hw (Part.refl w))⟩
  · rintro ⟨hself, hinside⟩ es x hes
    rcases hes.eq_or_inside with rfl | ⟨w, hw, hes⟩
    · exact hself es x rfl
    · exact hinside w hw es x hes

@[simp] theorem null : Value.null.ChildrenListed := iff_inside.mpr ⟨nofun, nofun⟩

@[simp] theorem int (n : Int) : (Value.int n).ChildrenListed := iff_inside.mpr ⟨nofun, nofun⟩

@[simp] theorem text (s : String) : (Value.text s).ChildrenListed := iff_inside.mpr ⟨nofun, nofun⟩

@[simp] theorem list_iff {vs : List Value} :
    (list vs).ChildrenListed ↔ ∀ w ∈ vs, w.ChildrenListed := by
  rw [iff_inside]
  simp [inside]

theorem map {es : List (Value × Value)}
    (hchildren : ∀ x, member? es "children" = some x → ∃ children, x = list children)
    (hes : ∀ e ∈ es, e.1.ChildrenListed ∧ e.2.ChildrenListed) :
    (Value.map es).ChildrenListed := by
  refine iff_inside.mpr ⟨fun es' x heq => Value.map.inj heq ▸ hchildren x, fun w hw => ?_⟩
  obtain ⟨e, he, rfl | rfl⟩ := mem_inside_map.mp hw
  · exact (hes e he).1
  · exact (hes e he).2

end Value.ChildrenListed

namespace Fault

variable {x d : Value} {e : Fault}

theorem OfCondition.of_part (h : e.OfCondition x) (hx : Part x d) : e.OfCondition d := by
  cases e with
  | payload cause => trivial
  | misuse m =>
    cases m with
    | tooManyDigits =>
      obtain ⟨es, key, v, hes, hv⟩ := (h : x.LongName)
      exact ⟨es, key, v, hes.trans hx, hv⟩
    | _ => exact h.elim
  | _ => exact h.elim

theorem OfText.ofCondition {es : List (Value × Value)} {key : String} (h : e.OfText x)
    (hkey : key ∈ ["type", "combinator", "operator"]) (hx : Value.member? es key = some x) :
    e.OfCondition (.map es) := by
  cases e with
  | payload cause => trivial
  | misuse m =>
    cases m with
    | tooManyDigits => exact ⟨es, key, x, Part.refl _, hkey, hx, h⟩
    | _ => exact h.elim
  | _ => exact h.elim

end Fault

/-! ### Names -/

namespace Value

theorem named_eq_ok_iff {α : Type} {vocabulary : Vocabulary} {ofName? : String → Option α}
    {v : Value} {a : α} :
    v.named vocabulary ofName? = .ok a ↔ ∃ s, v = text s ∧ ofName? s = some a := by
  have hunknown : (unknownName vocabulary v : Result α) ≠ .ok a := by
    unfold unknownName
    cases v.literal <;> exact nofun
  unfold named
  cases v with
  | text s =>
    dsimp only
    cases h : ofName? s with
    | none => simpa [h] using hunknown
    | some b => simp [h]
  | _ => simpa using hunknown

theorem named_combinator_iff {v : Value} {k : Combinator} :
    v.named .combinator Combinator.ofName? = .ok k ↔ v = text k.name := by
  rw [named_eq_ok_iff]
  constructor
  · rintro ⟨s, rfl, hs⟩
    rw [Combinator.name_of_ofName? hs]
  · rintro rfl
    exact ⟨k.name, rfl, Combinator.ofName?_name k⟩

theorem named_operator_iff {v : Value} {o : Operator} :
    v.named .operator Operator.ofName? = .ok o ↔ v = text o.name := by
  rw [named_eq_ok_iff]
  constructor
  · rintro ⟨s, rfl, hs⟩
    rw [Operator.name_of_ofName? hs]
  · rintro rfl
    exact ⟨o.name, rfl, Operator.ofName?_name o⟩

end Value

/-! ### Reading a rule -/

theorem Rule.ofEntries?_eq_ok_iff {es : List (Value × Value)} {r : Rule} :
    Rule.ofEntries? es = .ok r ↔
      Value.member? es "field" = some r.field ∧
        Value.member? es "operator" = some (.text r.operator.name) ∧
          r.comparand = (Value.memberD es "value" .null).fixed := by
  constructor
  · intro h
    obtain ⟨field, hfield, h⟩ := exists_of_bind_eq_ok h
    obtain ⟨x, hx, h⟩ := exists_of_bind_eq_ok h
    obtain ⟨o, ho, h⟩ := exists_of_bind_eq_ok h
    cases h
    rw [Value.named_operator_iff.mp ho] at hx
    exact ⟨Value.requiredIn_eq_ok_iff.mp hfield, Value.requiredIn_eq_ok_iff.mp hx, rfl⟩
  · rintro ⟨hfield, hoperator, hcomparand⟩
    unfold Rule.ofEntries?
    rw [Value.requiredIn_eq_ok_iff.mpr hfield, Value.requiredIn_eq_ok_iff.mpr hoperator, ok_bind,
      ok_bind, Value.named_operator_iff.mpr rfl, ok_bind, ← hcomparand]
    rfl

namespace Condition

/-! ### What is read -/

section
variable {inKnot : Value → Result Condition} {es : List (Value × Value)} {children : List Value}

/-- Induction over payloads: what holds of a value once it holds of its children holds of every
value. -/
theorem children_induction {motive : Value → Prop}
    (step : ∀ v, (∀ es children, v = .map es →
      Value.memberD es "children" (.list []) = .list children →
        ∀ x ∈ children, Part x v ∧ motive x) → motive v) (v : Value) : motive v := by
  -- on all parts, as children stand in what stands under their key
  induction v using Part.induction with
  | step v ih =>
    refine step v fun es children hes h x hx => ?_
    subst hes
    rcases Value.memberD_cases es "children" (.list []) with hnone | hmember
    · cases hnone.symm.trans h
      cases hx
    · have hpart : Part x (Value.memberD es "children" (.list [])) :=
        .of_inside (by rw [h]; exact hx) (Part.refl x)
      exact ⟨.of_inside hmember hpart, ih _ hmember x hpart⟩

theorem exists_children (h : (Value.map es).ChildrenListed) :
    ∃ children, Value.memberD es "children" (.list []) = .list children := by
  unfold Value.memberD
  cases hx : Value.member? es "children" with
  | none => exact ⟨[], rfl⟩
  | some x => exact h es x (Part.refl _) hx

/-- **What is read from a payload is written in its form.** -/
theorem hasForm_of_read {v : Value} (hv : v.IsJson) (hlisted : v.ChildrenListed) {c : Condition}
    (h : read inKnot v = .ok c) : HasForm v c.toPayload := by
  induction v using children_induction generalizing c with
  | step v ih =>
    cases hv with
    | null => cases h; exact .missing
    | @map es keyed values =>
      rcases type_cases es with hnone | hgroup | hrule | ⟨type, htype, hgroup, hrule⟩
      · rw [read_of_no_type inKnot hnone] at h
        cases h
      · rw [read_of_group inKnot hgroup, readChildren_eq_eachItem inKnot values] at h
        obtain ⟨k, hk, h⟩ := exists_of_bind_eq_ok h
        obtain ⟨cs, hcs, h⟩ := exists_of_bind_eq_ok h
        cases h
        obtain ⟨children, hchildren⟩ := exists_children hlisted
        rw [hchildren] at hcs
        have hread : ∀ x ∈ children, ∀ d, read inKnot x = .ok d → HasForm x d.toPayload := by
          intro x hx d hd
          obtain ⟨hpart, hx⟩ := ih es children rfl hchildren x hx
          exact hx ((IsJson.map keyed values).of_part hpart) (hlisted.of_part hpart) hd
        rw [toPayload_group]
        refine .group hgroup (Value.named_combinator_iff.mp hk) hchildren ?_
        rw [List.forall₂_map_right_iff]
        exact ((List.forall₂_and_left _ _).mpr ⟨hread, forall₂_of_mapM hcs⟩).imp fun x d hd => hd.1 d hd.2
      · rw [read_of_rule inKnot hrule] at h
        obtain ⟨r, hr, rfl⟩ := exists_of_map_eq_ok h
        obtain ⟨hfield, hoperator, hcomparand⟩ := Rule.ofEntries?_eq_ok_iff.mp hr
        have hplain : r.comparand.plain = Value.memberD es "value" .null := by
          rw [hcomparand, (IsJson.memberD values "value" .null).plain_fixed]
        unfold toPayload Rule.toPayload
        rw [hplain]
        exact .rule hrule hfield hoperator
      · rw [read_of_other inKnot htype hgroup hrule] at h
        obtain ⟨s, -, h⟩ := exists_of_bind_eq_ok h
        cases h
    | _ => cases h

/-- **Every payload that has a form is read.** -/
theorem exists_read_of_hasForm (inKnot : Value → Result Condition) {v : Value} (hv : v.IsJson)
    {form : Value} (h : HasForm v form) :
    ∃ c, read inKnot v = .ok c ∧ c.toPayload = form := by
  induction v using children_induction generalizing form with
  | step v ih =>
    cases h with
    | missing => exact ⟨missing, rfl, rfl⟩
    | @rule es field o isRule onField byOperator =>
      have hr : Rule.ofEntries? es = .ok ⟨field, o, (Value.memberD es "value" .null).fixed⟩ :=
        Rule.ofEntries?_eq_ok_iff.mpr ⟨onField, byOperator, rfl⟩
      refine ⟨_, by rw [read_of_rule inKnot isRule, hr]; rfl, ?_⟩
      unfold toPayload Rule.toPayload
      rw [(IsJson.memberD hv.of_map "value" .null).plain_fixed]
    | @group es k children forms isGroup byCombinator listed each =>
      have hread : ∀ x ∈ children, ∀ f, HasForm x f →
          ∃ c, read inKnot x = .ok c ∧ c.toPayload = f := by
        intro x hx f hf
        obtain ⟨hpart, hx⟩ := ih es children rfl listed x hx
        exact hx (hv.of_part hpart) hf
      obtain ⟨cs, hcs, rfl⟩ := exists_mapM_of_forall₂
        (((List.forall₂_and_left _ _).mpr ⟨hread, each⟩).imp fun x f hf => hf.1 f hf.2)
      refine ⟨group k cs, ?_, toPayload_group k cs⟩
      rw [read_of_group inKnot isGroup, readChildren_eq_eachItem inKnot hv.of_map, Value.named_combinator_iff.mpr byCombinator, ok_bind,
        listed]
      show (children.mapM (read inKnot) >>= _) = _
      rw [hcs]
      rfl

/-! ### What is refused -/

theorem ofCondition_requiredIn (es : List (Value × Value)) (key : String) (d : Value) :
    FailsOnly (Fault.OfCondition d) (Value.requiredIn es key) := by
  unfold Value.requiredIn
  split
  · exact failsOnly_ok _
  · exact failsOnly_error trivial

theorem ofCondition_ofEntries? (es : List (Value × Value)) :
    FailsOnly (Fault.OfCondition (.map es)) (Rule.ofEntries? es) := by
  unfold Rule.ofEntries?
  refine (ofCondition_requiredIn es "field" _).bind fun field _ => ?_
  refine (ofCondition_requiredIn es "operator" _).bind fun x hx => ?_
  refine FailsOnly.bind ((Value.ofText_named _ _ x).mono fun e he => ?_) fun o _ => failsOnly_ok _
  exact he.ofCondition (by simp) (Value.requiredIn_eq_ok_iff.mp hx)

theorem ofCondition_combinator (es : List (Value × Value)) :
    FailsOnly (Fault.OfCondition (.map es))
      ((Value.memberD es "combinator" (.text "AND")).named .combinator Combinator.ofName?) := by
  unfold Value.memberD
  cases hx : Value.member? es "combinator" with
  | none => exact failsOnly_ok Combinator.and
  | some x => exact (Value.ofText_named _ _ x).mono fun e he => he.ofCondition (by simp) hx

/-- **A value that is refused** is refused with a fault of the payload, unless a name is too long. -/
theorem ofCondition_read (inKnot : Value → Result Condition) {v : Value} (hv : v.IsJson)
    (hlisted : v.ChildrenListed) : FailsOnly (Fault.OfCondition v) (read inKnot v) := by
  induction v using children_induction with
  | step v ih =>
    cases hv with
    | null => exact failsOnly_ok _
    | @map es keyed values =>
      rcases type_cases es with hnone | hgroup | hrule | ⟨type, htype, hgroup, hrule⟩
      · rw [read_of_no_type inKnot hnone]
        exact failsOnly_error trivial
      · obtain ⟨children, hchildren⟩ := exists_children hlisted
        rw [read_of_group inKnot hgroup, readChildren_eq_eachItem inKnot values, hchildren]
        refine (ofCondition_combinator es).bind fun k _ => ?_
        refine FailsOnly.bind (failsOnly_mapM fun x hx => ?_) fun cs _ => failsOnly_ok _
        obtain ⟨hpart, hx⟩ := ih es children rfl hchildren x hx
        exact (hx ((IsJson.map keyed values).of_part hpart) (hlisted.of_part hpart)).mono
          fun e he => he.of_part hpart
      · rw [read_of_rule inKnot hrule]
        exact (ofCondition_ofEntries? es).map rule
      · rw [read_of_other inKnot htype hgroup hrule]
        refine FailsOnly.bind ((Value.ofText_shown type).mono fun e he => ?_)
          fun s _ => failsOnly_error trivial
        exact he.ofCondition (by simp) htype
    | _ => exact failsOnly_error trivial

end

/-! ### Conditions in JSON values -/

/-- **A condition is read from exactly the payloads of the grammar**, and is written in their form: with
the known keys and no other ones, *and* for a combinator that is left out, the empty list for children
that are left out, and null for a value that is left out. What is no payload is refused with a fault of
the payload, or with one for a whole number with too many digits in the place of a name. -/
theorem ofPayload?_grammar {d : Value} (hd : d.IsJson) (hlisted : d.ChildrenListed) :
    ((∃ c, ofPayload? d = .ok c) ∨ (∃ cause, ofPayload? d = .error (.payload cause)) ∨
      (ofPayload? d = .error (.misuse .tooManyDigits) ∧ d.LongName)) ∧
    ((∃ c, ofPayload? d = .ok c) ↔ ∃ form, HasForm d form) ∧
    ∀ c, ofPayload? d = .ok c → ∀ form, HasForm d form ↔ form = c.toPayload := by
  rw [ofPayload?_eq hd]
  have hfails := ofCondition_read (ofPayloadWithin d.strandCount) hd hlisted
  refine ⟨?_, ⟨?_, ?_⟩, fun c hc form => ⟨fun h => ?_, ?_⟩⟩
  · cases h : read (ofPayloadWithin d.strandCount) d with
    | ok c => exact .inl ⟨c, rfl⟩
    | error e =>
      have he : e.OfCondition d := hfails e h
      cases e with
      | payload cause => exact .inr (.inl ⟨cause, rfl⟩)
      | misuse m =>
        cases m with
        | tooManyDigits => exact .inr (.inr ⟨rfl, he⟩)
        | _ => exact he.elim
      | _ => exact he.elim
  · rintro ⟨c, hc⟩
    exact ⟨_, hasForm_of_read hd hlisted hc⟩
  · rintro ⟨form, h⟩
    obtain ⟨c, hc, -⟩ := exists_read_of_hasForm (ofPayloadWithin d.strandCount) hd h
    exact ⟨c, hc⟩
  · obtain ⟨c', hc', rfl⟩ := exists_read_of_hasForm (ofPayloadWithin d.strandCount) hd h
    cases hc.symm.trans hc'
    rfl
  · rintro rfl
    exact hasForm_of_read hd hlisted hc

/-- A group without a combinator, with a key that is not known, of one rule that compares with nothing. -/
theorem ofPayload?_grammar_defaults :
    let rule (rest : List (Value × Value)) : Value :=
      .map ([(.text "type", .text "rule"), (.text "field", .text "x"),
        (.text "operator", .text "is_empty")] ++ rest)
    let d : Value := .map [(.text "type", .text "group"), (.text "note", .null),
      (.text "children", .list [rule [(.text "note", .int 1)], .null])]
    let form : Value := .map [(.text "type", .text "group"), (.text "combinator", .text "AND"),
      (.text "children", .list [rule [(.text "value", .null)], .null])]
    d.IsJson ∧ d.ChildrenListed ∧ HasForm d form ∧ ∃ c, ofPayload? d = .ok c ∧ c.toPayload = form := by
  intro rule d form
  have hrule : (rule [(.text "note", .int 1)]).IsJson := by
    refine Value.isJson_record (l := [("type", .text "rule"), ("field", .text "x"),
      ("operator", .text "is_empty"), ("note", .int 1)]) (by simp) ?_
    simp [IsJson.text, IsJson.int]
  have hd : d.IsJson := by
    refine Value.isJson_record (l := [("type", .text "group"), ("note", .null),
      ("children", .list [rule [(.text "note", .int 1)], .null])]) (by simp) ?_
    simp [IsJson.text, IsJson.null, IsJson.list, hrule]
  have hruleListed : (rule [(.text "note", .int 1)]).ChildrenListed := .map nofun (by simp)
  have hlisted : d.ChildrenListed := by
    refine .map (fun x hx => ⟨_, (Option.some.inj hx).symm⟩) ?_
    simp [hruleListed]
  obtain ⟨c, hc, hform⟩ : ∃ c, ofPayload? d = .ok c ∧ c.toPayload = form := ⟨_, rfl, rfl⟩
  obtain ⟨-, -, hforms⟩ := ofPayload?_grammar hd hlisted
  exact ⟨hd, hlisted, (hforms c hc form).mpr hform.symm, c, hc, hform⟩

/-- A number with too many digits in the place of a type is refused with no fault of the payload. -/
theorem ofPayload?_long_type :
    let d : Value := .map [(.text "type", .int (Nat.pow 10 Text.digitLimit))]
    d.IsJson ∧ d.ChildrenListed ∧ (¬ ∃ c, ofPayload? d = .ok c) ∧
      (¬ ∃ cause, ofPayload? d = .error (.payload cause)) ∧
        ofPayload? d = .error (.misuse .tooManyDigits) := by
  generalize hn : Nat.pow 10 Text.digitLimit = n
  intro d
  have hd : d.IsJson :=
    Value.isJson_record (l := [("type", .int n)]) (by simp) (by simp [IsJson.int])
  have hlisted : d.ChildrenListed := .map nofun (by simp)
  have htype : Value.member? [(.text "type", .int n)] "type" = some (.int n) := rfl
  have hread : ofPayload? d = .error (.misuse .tooManyDigits) := by
    rw [ofPayload?_eq hd, read_of_other _ htype nofun nofun, unknownType,
      Value.shown_of_many_digits hn.le]
    rfl
  simp [hd, hlisted, hread]

end Condition

end SubmissionRouting
