import SubmissionRouting.Proofs.Value.Parts

/-! # Reading of conditions

The children of a group are read from the items of what stands under `children`, as the fields and
routes of a form are from theirs (`readChildren_eq_eachItem`). What is read from a mapping depends on its
type (`type_cases`, with one equation for each case). Each rule of a condition is read from the entries
of a mapping that is part of the payload (`exists_entries_of_ofPayload?`). -/

namespace SubmissionRouting.Condition

open Value

theorem same_eq_alike_text (k : Value) (s : String) :
    k.same (.text s) = k.alike (.text s) := by
  cases k <;> simp [Value.same, Value.isNaN, Value.alike, Value.scalarsAlike, Value.quantity?]

/-! ### Children -/

section
variable (inKnot : Value → Result Condition)

theorem readChildren_eq (es : List (Value × Value)) :
    readChildren inKnot es =
      match Value.member? es "children" with
      | none => .ok []
      | some v => readItems inKnot v := by
  induction es with
  | nil => rfl
  | cons e es ih =>
    unfold readChildren Value.member?
    rw [Mapping.get?_cons, same_eq_alike_text]
    by_cases h : e.1.alike (.text "children") = true
    · rw [if_pos h, if_pos h]
    · rw [if_neg h, if_neg h, ih]
      rfl

theorem readAll_eq_mapM (vs : List Value) :
    readAll inKnot vs = vs.mapM (read inKnot) := by
  induction vs with
  | nil => rfl
  | cons v vs ih => rw [readAll, List.mapM_cons, ih]

theorem readKeys_eq_mapM (es : List (Value × Value)) :
    readKeys inKnot es = (es.map (·.1)).mapM (read inKnot) := by
  induction es with
  | nil => rfl
  | cons e es ih => rw [readKeys, List.map_cons, List.mapM_cons, ih]

theorem readItems_eq_eachItem {v : Value} (hv : v.IsJson) :
    readItems inKnot v = v.eachItem (read inKnot) := by
  cases hv with
  | list _ => exact readAll_eq_mapM inKnot _
  | map _ _ => exact readKeys_eq_mapM inKnot _
  | text s =>
    -- no condition is read from a text, so the first character is in the way
    unfold readItems eachItem items
    show _ = (s.toList.map fun c => text (String.singleton c)).mapM (read inKnot)
    cases s.toList with
    | nil => rfl
    | cons c cs =>
      rw [List.map_cons, List.mapM_cons, read]
      · rfl
      all_goals exact nofun
  | _ => rfl

theorem readChildren_eq_eachItem {es : List (Value × Value)} (hes : ∀ e ∈ es, e.2.IsJson) :
    readChildren inKnot es =
      (Value.memberD es "children" (.list [])).eachItem (read inKnot) := by
  rw [readChildren_eq]
  unfold Value.memberD
  cases h : Value.member? es "children" with
  | none => rfl
  | some v => exact readItems_eq_eachItem inKnot (IsJson.member? hes h)

end

/-! ### Mappings -/

section
variable (inKnot : Value → Result Condition) {es : List (Value × Value)}

theorem read_of_no_type (h : Value.member? es "type" = none) :
    read inKnot (.map es) = .error (.payload (.missingKey "type")) := by
  unfold read requiredIn
  rw [h]
  rfl

theorem read_of_rule (h : Value.member? es "type" = some (.text "rule")) :
    read inKnot (.map es) = (Rule.ofEntries? es).map rule := by
  unfold read
  rw [requiredIn_eq_ok_iff.mpr h]
  show (Rule.ofEntries? es >>= _) = _
  cases Rule.ofEntries? es <;> rfl

theorem read_of_group (h : Value.member? es "type" = some (.text "group")) :
    read inKnot (.map es) = (do
      let k ← (Value.memberD es "combinator" (.text "AND")).named .combinator Combinator.ofName?
      let cs ← readChildren inKnot es
      pure (group k cs)) := by
  unfold read
  rw [requiredIn_eq_ok_iff.mpr h]
  rfl

theorem read_of_other {type : Value} (h : Value.member? es "type" = some type)
    (hgroup : type ≠ .text "group") (hrule : type ≠ .text "rule") :
    read inKnot (.map es) = unknownType type := by
  unfold read
  rw [requiredIn_eq_ok_iff.mpr h, ok_bind, if_neg (mt same_text_right_iff.mp hgroup),
    if_neg (mt same_text_right_iff.mp hrule)]

/-- **The four ways in which a mapping can be read.** -/
theorem type_cases (es : List (Value × Value)) :
    Value.member? es "type" = none ∨ Value.member? es "type" = some (.text "group") ∨
      Value.member? es "type" = some (.text "rule") ∨
        ∃ type, Value.member? es "type" = some type ∧ type ≠ .text "group" ∧
          type ≠ .text "rule" := by
  cases h : Value.member? es "type" with
  | none => exact .inl rfl
  | some type =>
    by_cases hgroup : type = .text "group"
    · exact .inr (.inl (congrArg some hgroup))
    by_cases hrule : type = .text "rule"
    · exact .inr (.inr (.inl (congrArg some hrule)))
    · exact .inr (.inr (.inr ⟨type, rfl, hgroup, hrule⟩))

end

/-! ### Rules -/

/-- **Each rule that is read** is read from the entries of a mapping in the payload. -/
theorem exists_entries_of_read {inKnot : Value → Result Condition} {v : Value} (hv : v.IsJson)
    {c : Condition} (h : read inKnot v = .ok c) :
    ∀ r ∈ c.rules, ∃ es, Part (.map es) v ∧ Rule.ofEntries? es = .ok r := by
  -- on all parts: the payload of a child stands in what stands under `children`
  induction v using Part.induction generalizing c with
  | step v ih =>
    cases hv with
    | null => cases h; exact List.forall_mem_nil _
    | @map es keyed values =>
      rcases type_cases es with hnone | hgroup | hrule | ⟨type, htype, hgroup, hrule⟩
      · rw [read_of_no_type inKnot hnone] at h
        cases h
      · rw [read_of_group inKnot hgroup, readChildren_eq_eachItem inKnot values] at h
        obtain ⟨k, -, h⟩ := exists_of_bind_eq_ok h
        obtain ⟨cs, hcs, h⟩ := exists_of_bind_eq_ok h
        cases h
        intro r hr
        obtain ⟨c, hc, hr⟩ := mem_rules_group.mp hr
        obtain ⟨vs, x, hvs, hx, hread⟩ := exists_item_of_eachItem hcs c hc
        have hchildren : (Value.memberD es "children" (.list [])).IsJson :=
          IsJson.memberD values _ isJson_nil
        rcases mem_inside_of_items hchildren.opened hvs hx with hinside | ⟨s, rfl⟩
        · rcases memberD_cases es "children" (.list []) with hnone | hmember
          · rw [hnone] at hinside
            cases hinside
          · have hpart := Part.of_inside hinside (Part.refl x)
            obtain ⟨fs, hfs, hrule⟩ :=
              ih _ hmember x hpart (hchildren.of_inside x hinside) hread r hr
            exact ⟨fs, hfs.trans (.of_inside hmember hpart), hrule⟩
        · cases hread
      · rw [read_of_rule inKnot hrule] at h
        obtain ⟨r, hr, h⟩ := exists_of_map_eq_ok h
        cases h
        intro r' hr'
        rw [List.mem_singleton.mp hr']
        exact ⟨es, Part.refl _, hr⟩
      · rw [read_of_other inKnot htype hgroup hrule] at h
        obtain ⟨s, -, h⟩ := exists_of_bind_eq_ok h
        cases h
    | _ => cases h

theorem ofPayload?_eq {v : Value} (hv : v.IsJson) :
    ofPayload? v = read (ofPayloadWithin v.strandCount) v := by
  unfold ofPayload? ofPayloadWithin
  rw [hv.opened]

theorem exists_entries_of_ofPayload? {v : Value} (hv : v.IsJson) {c : Condition}
    (h : ofPayload? v = .ok c) :
    ∀ r ∈ c.rules, ∃ es, Part (.map es) v ∧ Rule.ofEntries? es = .ok r := by
  rw [ofPayload?_eq hv] at h
  exact exists_entries_of_read hv h

end SubmissionRouting.Condition
