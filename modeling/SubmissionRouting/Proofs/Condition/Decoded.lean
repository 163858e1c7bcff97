import SubmissionRouting.Proofs.Condition.Operators
import SubmissionRouting.Proofs.Condition.Pruning
import SubmissionRouting.Proofs.Condition.Reading

/-! # Evaluation of conditions read from JSON

Reading lets null stand for a child of a group, evaluation does not: where all rules have verdicts,
an evaluation gets through if and only if nothing is missing inside a group
(`exists_opinion_iff_whole`). The rules that are read from a JSON value have verdicts if their
fields are texts and all whole numbers are within the range of double precision
(`Rule.exists_verdict`), and so each condition that is read has a truth value, or lacks a child of a
group (`evaluate_of_ofPayload?`). -/

namespace SubmissionRouting

/-! ### Verdicts of rules that are read -/

namespace Rule

theorem exists_verdict {context : Context} {r : Rule} (hfield : ∃ s, r.field = .text s)
    (hcomparand : r.comparand.InRange) (hvalues : ∀ e ∈ context.values, e.2.InRange) :
    ∃ b, r.verdict context = .ok b := by
  obtain ⟨s, hs⟩ := hfield
  have hvalue : ((context.values.get? (.text s)).getD .null).InRange := by
    cases hget : context.values.get? (.text s) with
    | none => exact Value.InRange.null
    | some v =>
      obtain ⟨e, he, rfl⟩ := Option.map_eq_some_iff.mp hget
      exact hvalues e (List.mem_of_find?_eq_some he)
  unfold verdict
  rw [hs, Value.asKey_text, liftM_ok, ok_bind]
  cases context.catalog.get? (.text s) with
  | none => exact ⟨true, rfl⟩
  | some slot =>
    obtain ⟨b, hb⟩ := r.operator.exists_holds slot hvalue hcomparand
    exact ⟨b, orFault_eq_ok_iff.mpr hb⟩

theorem inRange_of_ofEntries? {es : List (Value × Value)} (hes : (Value.map es).InRange) {r : Rule}
    (h : ofEntries? es = .ok r) : r.comparand.InRange := by
  obtain ⟨field, -, h⟩ := exists_of_bind_eq_ok h
  obtain ⟨_, -, h⟩ := exists_of_bind_eq_ok h
  obtain ⟨operator, -, h⟩ := exists_of_bind_eq_ok h
  cases h
  refine Value.InRange.fixed ?_
  rcases Value.memberD_cases es "value" .null with hnone | hmember
  · rw [hnone]
    exact Value.InRange.null
  · exact hes.of_part (.of_inside hmember (Value.Part.refl _))

end Rule

namespace Condition

/-! ### Missing children -/

section
variable {context : Context} {c : Condition}

theorem failsOnly_opinion (h : ∀ r ∈ c.rules, ∃ b, r.verdict context = .ok b) :
    FailsOnly (· = Fault.missingCondition) (opinion context c).outcome := by
  induction c using Condition.induction with
  | missing => exact failsOnly_error rfl
  | rule r =>
    obtain ⟨b, hb⟩ := h r (List.mem_singleton_self r)
    rw [outcome_opinion_rule, hb]
    split_ifs <;> exact failsOnly_ok _
  | group k cs ih =>
    rw [outcome_opinion_group]
    exact (failsOnly_mapM fun c hc => ih c hc fun r hr => h r (rules_subset_group hc hr)).map _

/-- **Where all rules have verdicts**, a condition has an opinion, or none, if and only if nothing
is missing in it. -/
theorem exists_opinion_iff_whole (h : ∀ r ∈ c.rules, ∃ b, r.verdict context = .ok b) :
    (∃ o, (opinion context c).outcome = .ok o) ↔ c.Whole := by
  induction c using Condition.induction with
  | missing => exact iff_of_false nofun fun hwhole => hwhole.ne_missing rfl
  | rule r =>
    refine iff_of_true ?_ (Whole.rule r)
    obtain ⟨b, hb⟩ := h r (List.mem_singleton_self r)
    rw [outcome_opinion_rule, hb]
    split_ifs
    · exact ⟨none, rfl⟩
    · exact ⟨some b, rfl⟩
  | group k cs ih =>
    rw [outcome_opinion_group, exists_ok_map_iff, exists_ok_mapM_iff, whole_group_iff]
    exact forall₂_congr fun c hc => ih c hc fun r hr => h r (rules_subset_group hc hr)

end

/-! ### Conditions that are read -/

/-- **A condition that is read from a JSON value has a truth value**, unless it lacks a child of a
group: then its evaluation stops there. The fields of its rules are texts, and the whole numbers in
the JSON value and in the values of the fields are within the range of double precision. -/
theorem evaluate_of_ofPayload? {d : Value} (hd : d.IsJson) {c : Condition}
    (h : ofPayload? d = .ok c) (hfields : ∀ r ∈ c.rules, ∃ s, r.field = .text s)
    (hrange : d.InRange) (context : Context) (hvalues : ∀ e ∈ context.values, e.2.InRange) :
    ((c ≠ missing → c.Whole) → ∃ b, (evaluate context c).outcome = .ok b) ∧
      (¬ (c ≠ missing → c.Whole) →
        (evaluate context c).outcome = .error .missingCondition) := by
  have hverdicts : ∀ r ∈ c.rules, ∃ b, r.verdict context = .ok b := by
    intro r hr
    obtain ⟨es, hpart, hread⟩ := exists_entries_of_ofPayload? hd h r hr
    have hcomparand := Rule.inRange_of_ofEntries? (hrange.of_part hpart) hread
    exact Rule.exists_verdict (hfields r hr) hcomparand hvalues
  by_cases hc : c = missing
  · subst hc
    exact ⟨fun _ => ⟨true, rfl⟩, fun hwhole => absurd (fun hne => absurd rfl hne) hwhole⟩
  · rw [outcome_evaluate context hc]
    refine ⟨fun hwhole => ?_, fun hwhole => ?_⟩
    · exact exists_ok_map_iff.mpr ((exists_opinion_iff_whole hverdicts).mpr (hwhole hc))
    · have hfails := (failsOnly_opinion hverdicts).map fun o => o.getD true
      refine eq_error_of_failsOnly hfails fun b hb => hwhole fun _ => ?_
      exact (exists_opinion_iff_whole hverdicts).mp (exists_ok_map_iff.mp ⟨b, hb⟩)

/-- A range over a number that is asked for, and a group with null among its children. -/
theorem evaluate_of_ofPayload?_two_groups :
    let among (child : Value) : Value :=
      .map [(.text "type", .text "group"), (.text "combinator", .text "OR"),
        (.text "children", .list [child])]
    let ranged : Value :=
      .map [(.text "type", .text "rule"), (.text "field", .text "x"),
        (.text "operator", .text "between"), (.text "value", .list [.int 1, .int (-2)])]
    let context : Context := ⟨[(.text "x", .text "1.5")], [(.text "x", ⟨.number, []⟩)]⟩
    (∃ c b, ofPayload? (among ranged) = .ok c ∧ (evaluate context c).outcome = .ok b) ∧
      ∃ c, ofPayload? (among .null) = .ok c ∧
        (evaluate context c).outcome = .error .missingCondition := by
  intro among ranged context
  have hjson {child : Value} (h : child.IsJson) : (among child).IsJson := by
    refine Value.isJson_record (l := [("type", .text "group"), ("combinator", .text "OR"),
      ("children", .list [child])]) (by simp) ?_
    simp [Value.IsJson.text, Value.IsJson.list, h]
  have hrange {child : Value} (h : child.InRange) : (among child).InRange := by
    simp [among, h]
  have hvalues : ∀ e ∈ context.values, e.2.InRange := by simp [context]
  have hranged : ranged.IsJson := by
    refine Value.isJson_record (l := [("type", .text "rule"), ("field", .text "x"),
      ("operator", .text "between"), ("value", .list [.int 1, .int (-2)])]) (by simp) ?_
    simp [Value.IsJson.text, Value.IsJson.list, Value.IsJson.int]
  have hone : (Binary64.ofInt? 1).isSome := by decide +kernel
  have htwo : (Binary64.ofInt? (-2)).isSome := by decide +kernel
  have hrule : ranged.InRange := by simp [ranged, hone, htwo]
  refine ⟨?_, ?_⟩
  · have hread : ofPayload? (among ranged) = .ok (group .or
        [rule ⟨.text "x", .between, .tuple [.int 1, .int (-2)]⟩]) := rfl
    have hwhole : (group .or [rule ⟨.text "x", .between, .tuple [.int 1, .int (-2)]⟩]).Whole := by
      simp only [whole_group_iff, List.forall_mem_cons]
      exact ⟨Whole.rule _, nofun⟩
    have hfields : ∀ r ∈ (group .or [rule ⟨.text "x", .between,
        .tuple [.int 1, .int (-2)]⟩]).rules, ∃ s, r.field = .text s := by
      intro r hr
      rw [List.mem_singleton.mp hr]
      exact ⟨"x", rfl⟩
    obtain ⟨b, hb⟩ := (evaluate_of_ofPayload? (hjson hranged) hread hfields (hrange hrule) context
      hvalues).1 fun _ => hwhole
    exact ⟨_, b, hread, hb⟩
  · have hread : ofPayload? (among .null) = .ok (group .or [missing]) := rfl
    refine ⟨_, hread, (evaluate_of_ofPayload? (hjson .null) hread nofun
      (hrange Value.InRange.null) context hvalues).2 fun hwhole => ?_⟩
    exact (whole_group_iff.mp (hwhole nofun) missing List.mem_cons_self).ne_missing rfl

/-- A condition is read from a group with null among its children, and its evaluation stops. -/
theorem evaluate_lacking_child :
    let d : Value := .map [(.text "type", .text "group"), (.text "children", .list [.null])]
    let c := group .and [missing]
    d.IsJson ∧ d.InRange ∧ ofPayload? d = .ok c ∧ (∀ r ∈ c.rules, ∃ s, r.field = .text s) ∧
      (evaluate ⟨[], []⟩ c).outcome = .error .missingCondition := by
  refine ⟨?_, ?_, rfl, nofun, rfl⟩
  · refine Value.isJson_record (l := [("type", .text "group"), ("children", .list [.null])])
      (by simp) ?_
    simp [Value.IsJson.text, Value.IsJson.list, Value.IsJson.null]
  · simp

end Condition

end SubmissionRouting
