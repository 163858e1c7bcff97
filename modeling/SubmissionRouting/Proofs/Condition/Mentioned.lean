import SubmissionRouting.Proofs.Condition.Outcome
import SubmissionRouting.Proofs.FirstFault

/-! # Mentioned fields

A condition mentions the fields that its rules are on (`Condition.fields`), and its evaluation reads
no value but those of the fields that it mentions (`outcome_evaluate_congr`). Of a catalog it reads
the slots of keys, however they came to stand there (`outcome_evaluate_sameSlots`). -/

namespace SubmissionRouting

/-- Two lookups have the same at some keys. -/
def AgreeOn (keys : Value → Prop) (f g : Value → Option Value) : Prop := ∀ x, keys x → f x = g x

namespace Condition

/-- The fields that the rules of a condition are on. -/
def fields (c : Condition) : List Value := c.rules.map Rule.field

theorem mem_fields_group {k : Combinator} {cs : List Condition} {x : Value} :
    x ∈ (group k cs).fields ↔ ∃ c ∈ cs, x ∈ c.fields := by
  unfold fields
  rw [rules_group, List.map_flatMap, List.mem_flatMap]

end Condition

section
variable {u w : Mapping Value}

theorem Rule.verdict_congr (catalog : Mapping Slot) {r : Rule}
    (h : u.get? r.field = w.get? r.field) :
    r.verdict ⟨u, catalog⟩ = r.verdict ⟨w, catalog⟩ := by
  unfold Rule.verdict
  by_cases hkey : r.field.isKey = true
  · have hfield : r.field.asKey = .ok r.field := if_pos hkey
    simp only [hfield, liftM_ok, ok_bind, h]
  · have hfield : r.field.asKey = .error .unhashable := if_neg hkey
    rw [hfield]
    rfl

namespace Condition

theorem outcome_opinion_congr (catalog : Mapping Slot) (c : Condition)
    (h : AgreeOn (· ∈ c.fields) u.get? w.get?) :
    (opinion ⟨u, catalog⟩ c).outcome = (opinion ⟨w, catalog⟩ c).outcome := by
  induction c using Condition.induction with
  | missing => rfl
  | rule r =>
    have hfield : u.get? r.field = w.get? r.field := h r.field (List.mem_singleton.mpr rfl)
    rw [outcome_opinion_rule, outcome_opinion_rule, Rule.verdict_congr catalog hfield]
    rfl
  | group k cs ih =>
    have hchildren : ∀ c ∈ cs,
        (opinion ⟨u, catalog⟩ c).outcome = (opinion ⟨w, catalog⟩ c).outcome := by
      intro c hc
      exact ih c hc fun x hx => h x (mem_fields_group.mpr ⟨c, hc, hx⟩)
    rw [outcome_opinion_group, outcome_opinion_group]
    congr 1
    exact mapM_congr hchildren

/-- **An evaluation reads the mentioned fields only.** -/
theorem outcome_evaluate_congr (catalog : Mapping Slot) (c : Condition)
    (h : AgreeOn (· ∈ c.fields) u.get? w.get?) :
    (evaluate ⟨u, catalog⟩ c).outcome = (evaluate ⟨w, catalog⟩ c).outcome := by
  by_cases hmissing : c = missing
  · subst hmissing
    rfl
  · rw [outcome_evaluate _ hmissing, outcome_evaluate _ hmissing,
      outcome_opinion_congr catalog c h]

end Condition

end

/-! ### Catalogs -/

/-- Two catalogs have the same slots for all keys. -/
def SameSlots (c c' : Mapping Slot) : Prop := ∀ x : Value, x.isKey = true → c.get? x = c'.get? x

section
variable {catalog catalog' : Mapping Slot} (values : Mapping Value)

theorem Rule.outcome_opinion_sameSlots (h : SameSlots catalog catalog') (r : Rule) :
    (r.opinion ⟨values, catalog⟩).outcome = (r.opinion ⟨values, catalog'⟩).outcome := by
  rw [r.outcome_opinion, r.outcome_opinion]
  unfold isDangling verdict
  by_cases hkey : r.field.isKey = true
  · have hfield : r.field.asKey = .ok r.field := if_pos hkey
    simp only [hfield, liftM_ok, ok_bind, h r.field hkey]
  · have hfield : r.field.asKey = .error .unhashable := if_neg hkey
    rw [hfield, Bool.eq_false_iff.mpr hkey]
    rfl

namespace Condition

theorem outcome_opinion_sameSlots (h : SameSlots catalog catalog') (c : Condition) :
    (opinion ⟨values, catalog⟩ c).outcome = (opinion ⟨values, catalog'⟩ c).outcome := by
  induction c using Condition.induction with
  | missing => rfl
  | rule r => exact r.outcome_opinion_sameSlots values h
  | group k cs ih =>
    rw [outcome_opinion_group, outcome_opinion_group]
    congr 1
    exact mapM_congr ih

/-- **An evaluation reads the slots of keys only.** -/
theorem outcome_evaluate_sameSlots (h : SameSlots catalog catalog') (c : Condition) :
    (evaluate ⟨values, catalog⟩ c).outcome = (evaluate ⟨values, catalog'⟩ c).outcome := by
  by_cases hmissing : c = missing
  · subst hmissing
    rfl
  · rw [outcome_evaluate _ hmissing, outcome_evaluate _ hmissing,
      outcome_opinion_sameSlots values h c]

end Condition

end

end SubmissionRouting
