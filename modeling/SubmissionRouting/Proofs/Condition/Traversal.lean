import SubmissionRouting.Proofs.Condition.Numeric
import SubmissionRouting.Proofs.Condition.Pruning

/-! # The rules that an evaluation visits

An evaluation visits every rule, whatever the others say. To say so, only the *effect* of a
computation is looked at: its records, and the fault if it fails (`Journaled.effect`). The effect of
evaluating a condition is that of evaluating its rules one after the other, each on its own, in the
order in which they stand (`Condition.effect_evaluate`). So a record is written for each rule on an
unknown field, up to the first rule that fails (`Condition.evaluate_visits_rules`). -/

namespace SubmissionRouting

/-! ### Effects -/

namespace Journaled

variable {α β : Type}

/-- What a computation does besides giving a result. -/
def effect (x : Journaled α) : Journaled Unit := ⟨x.records, x.outcome.map fun _ => ()⟩

theorem effect_bind (x : Journaled α) {f : α → Journaled β} {y : Journaled Unit}
    (h : ∀ a, (f a).effect = y) : (x >>= f).effect = x.effect >>= fun _ => y := by
  obtain ⟨records, e | a⟩ := x
  · rfl
  · rw [← h a]
    rfl

theorem effect_bind_pure (x : Journaled α) (f : α → β) :
    (x >>= fun a => pure (f a)).effect = x.effect := by
  rw [effect_bind x (y := pure ()) fun a => rfl]
  exact bind_pure_unit

theorem forM_of_ok {f : α → Journaled Unit} {l : List α}
    (h : ∀ a ∈ l, (f a).outcome = .ok ()) :
    l.forM f = ⟨l.flatMap fun a => (f a).records, .ok ()⟩ := by
  induction l with
  | nil => rfl
  | cons a l ih =>
    obtain ⟨ha, hl⟩ := List.forall_mem_cons.mp h
    have hstep : f a = ⟨(f a).records, .ok ()⟩ := by rw [← ha]
    show (f a >>= fun _ => l.forM f) = _
    rw [ih hl, hstep]
    rfl

theorem forM_of_error {f : α → Journaled Unit} {before after : List α} {a : α} {e : Fault}
    (hbefore : ∀ b ∈ before, (f b).outcome = .ok ()) (ha : (f a).outcome = .error e) :
    (before ++ a :: after).forM f =
      ⟨(before.flatMap fun b => (f b).records) ++ (f a).records, .error e⟩ := by
  have hstop : (a :: after).forM f = ⟨(f a).records, .error e⟩ := by
    have hstep : f a = ⟨(f a).records, .error e⟩ := by rw [← ha]
    show (f a >>= fun _ => after.forM f) = _
    rw [hstep]
    rfl
  have happend : (before ++ a :: after).forM f = before.forM f >>= fun _ => (a :: after).forM f :=
    List.forM_append
  rw [happend, forM_of_ok hbefore, hstop]
  rfl

theorem of_effect_ok {x : Journaled α} {records : List Record}
    (h : x.effect = ⟨records, .ok ()⟩) : x.records = records ∧ ∃ a, x.outcome = .ok a := by
  obtain ⟨_, e | a⟩ := x
  · cases h
  · cases h
    exact ⟨rfl, a, rfl⟩

theorem of_effect_error {x : Journaled α} {records : List Record} {e : Fault}
    (h : x.effect = ⟨records, .error e⟩) : x.records = records ∧ x.outcome = .error e := by
  obtain ⟨_, e | a⟩ := x
  · cases h
    exact ⟨rfl, rfl⟩
  · cases h

end Journaled

/-! ### Skipped rules -/

namespace Rule

/-- The record of a rule on an unknown field. -/
def skipRecord (r : Rule) : Record :=
  ⟨.debug, .evaluation, "Skipping rule on unknown field ", some r.field⟩

/-- The records of the rules on unknown fields among these. -/
def skipRecords (context : Context) (rs : List Rule) : List Record :=
  (rs.filter fun r => r.isDangling context).map skipRecord

variable (context : Context) (r : Rule)

/-- **A rule is recorded** exactly if its field is unknown. -/
theorem records_opinion : (r.opinion context).records = skipRecords context [r] := by
  have hsingle : skipRecords context [r] =
      if r.isDangling context then [r.skipRecord] else [] := by
    unfold skipRecords
    by_cases h : r.isDangling context = true
    · rw [List.filter_cons_of_pos h, if_pos h]
      rfl
    · rw [List.filter_cons_of_neg h, if_neg h]
      rfl
  rw [hsingle, isDangling, opinion]
  by_cases hkey : r.field.isKey = true
  · have hfield : (liftM r.field.asKey : Journaled Value).outcome = .ok r.field := by
      rw [show r.field.asKey = .ok r.field from if_pos hkey]
      rfl
    rw [Journaled.records_bind_ok hfield, hkey, Bool.true_and]
    show [] ++ _ = _
    rw [List.nil_append]
    cases hslot : context.catalog.get? r.field with
    | none => rfl
    | some slot =>
      show (liftM _ >>= fun verdict => pure (some verdict) : Journaled (Option Bool)).records = _
      cases r.operator.holds ((context.values.get? r.field).getD .null) r.comparand slot <;> rfl
  · have hfield : (liftM r.field.asKey : Journaled Value).outcome =
        .error (.misuse .unhashable) := by
      rw [show r.field.asKey = .error .unhashable from if_neg hkey]
      rfl
    rw [Journaled.records_bind_error hfield]
    simp only [hkey, Bool.false_and]
    rfl

theorem skipRecords_eq_flatMap (rs : List Rule) :
    skipRecords context rs = rs.flatMap fun r => skipRecords context [r] := by
  induction rs with
  | nil => rfl
  | cons r rs ih =>
    rw [List.flatMap_cons, ← ih]
    unfold skipRecords
    rw [← List.map_append, ← List.filter_append]
    rfl

end Rule

namespace Condition

variable (context : Context)

theorem effect_opinions {cs : List Condition}
    (h : ∀ c ∈ cs, (opinion context c).effect = c.rules.forM fun r => (r.opinion context).effect) :
    (opinions context cs).effect =
      (rulesOfAll cs).forM fun r => (r.opinion context).effect := by
  induction cs with
  | nil => rfl
  | cons c cs ih =>
    obtain ⟨hc, hcs⟩ := List.forall_mem_cons.mp h
    rw [opinions, Journaled.effect_bind _ fun a => Journaled.effect_bind_pure _ _, hc, ih hcs,
      rulesOfAll]
    exact List.forM_append.symm

/-- **The effect of forming an opinion** is that of its rules, one after the other. -/
theorem effect_opinion {c : Condition} (h : c.Whole) :
    (opinion context c).effect = c.rules.forM fun r => (r.opinion context).effect := by
  induction h with
  | rule r => exact bind_pure_unit.symm
  | group k cs _ ih =>
    rw [opinion, Journaled.effect_bind_pure, effect_opinions context ih]
    rfl

theorem effect_evaluate_of_ne_missing {c : Condition} (h : c ≠ missing) :
    (evaluate context c).effect = (opinion context c).effect := by
  cases c with
  | missing => exact absurd rfl h
  | rule r => exact Journaled.effect_bind_pure _ _
  | group k cs => exact Journaled.effect_bind_pure _ _

/-- **The effect of evaluating a condition** is that of evaluating its rules one after the other,
each on its own. -/
theorem effect_evaluate {c : Condition} (h : c ≠ missing → c.Whole) :
    (evaluate context c).effect = c.rules.forM fun r => (evaluate context (rule r)).effect := by
  have hrule : (fun r => (evaluate context (rule r)).effect) =
      fun r => (r.opinion context).effect := by
    funext r
    exact effect_evaluate_of_ne_missing context nofun
  rw [hrule]
  by_cases hc : c = missing
  · subst hc
    rfl
  · rw [effect_evaluate_of_ne_missing context hc, effect_opinion context (h hc)]

theorem records_evaluate_rule (r : Rule) :
    (evaluate context (rule r)).records = Rule.skipRecords context [r] := by
  have heffect := effect_evaluate_of_ne_missing context (c := rule r) nofun
  exact (congrArg Journaled.records heffect).trans (r.records_opinion context)

/-- A rule that fails is on a known field, so that it is not recorded. -/
theorem skipRecords_of_error {r : Rule} {e : Fault}
    (h : (evaluate context (rule r)).outcome = .error e) : Rule.skipRecords context [r] = [] := by
  have hdangling : ¬ r.isDangling context = true := by
    intro hdangling
    have hgiven : rule r ≠ missing := nofun
    rw [outcome_evaluate context hgiven, outcome_opinion_rule, if_pos hdangling] at h
    cases h
  unfold Rule.skipRecords
  rw [List.filter_cons_of_neg hdangling]
  rfl

/-- **An evaluation visits all rules**, in the order in which they stand, up to the first that fails
on its own: it writes the records of the rules that it visits, and fails as that rule does. -/
theorem evaluate_visits_rules {c : Condition} (h : c ≠ missing → c.Whole) :
    ((∀ r ∈ c.rules, ∃ b, (evaluate context (rule r)).outcome = .ok b) →
        (evaluate context c).records = Rule.skipRecords context c.rules ∧
          ∃ b, (evaluate context c).outcome = .ok b) ∧
      ∀ before r after e, c.rules = before ++ r :: after →
        (∀ r' ∈ before, ∃ b, (evaluate context (rule r')).outcome = .ok b) →
        (evaluate context (rule r)).outcome = .error e →
          (evaluate context c).records = Rule.skipRecords context before ∧
            (evaluate context c).outcome = .error e := by
  have hok {rs : List Rule} (hrs : ∀ r ∈ rs, ∃ b, (evaluate context (rule r)).outcome = .ok b) :
      ∀ r ∈ rs, (evaluate context (rule r)).effect.outcome = .ok () := by
    intro r hr
    obtain ⟨b, hb⟩ := hrs r hr
    exact congrArg (Except.map fun _ => ()) hb
  have hrecords (rs : List Rule) :
      (rs.flatMap fun r => (evaluate context (rule r)).effect.records) =
        Rule.skipRecords context rs := by
    rw [Rule.skipRecords_eq_flatMap]
    exact List.flatMap_congr fun r _ => records_evaluate_rule context r
  constructor
  · intro hrules
    have heffect := effect_evaluate context h
    rw [Journaled.forM_of_ok (hok hrules), hrecords] at heffect
    exact Journaled.of_effect_ok heffect
  · intro before r after e hsplit hbefore hr
    have heffect := effect_evaluate context h
    have hfails : (evaluate context (rule r)).effect.outcome = .error e :=
      congrArg (Except.map fun _ => ()) hr
    have hnone : (evaluate context (rule r)).effect.records = [] :=
      (records_evaluate_rule context r).trans (skipRecords_of_error context hr)
    rw [hsplit, Journaled.forM_of_error (hok hbefore) hfails, hrecords, hnone,
      List.append_nil] at heffect
    exact Journaled.of_effect_error heffect

/-- A decisive rule in front of a negated rule on an unknown field, without and with a rule behind
it that reads too large a number. The id of the unknown field is a number that has no text. -/
theorem evaluate_visits_rules_behind_decisive :
    let context := numberContext (.int (Nat.pow 10 400))
    let given : Rule := ⟨.text "x", .isNotEmpty, .null⟩
    let large : Rule := ⟨.text "x", .greater, .int 1⟩
    let stale : Rule := ⟨.int (Nat.pow 10 4300), .equals, .text "x"⟩
    let calm := group .or [rule given, group .not [rule stale], rule given]
    let failing := group .or [rule given, group .not [rule stale, rule large], rule stale]
    let skipped : Record :=
      ⟨.debug, .evaluation, "Skipping rule on unknown field ", some stale.field⟩
    calm.Whole ∧ (evaluate context calm).records = [skipped] ∧ failing.Whole ∧
      (evaluate context failing).records = [skipped] ∧
      (evaluate context failing).outcome = .error (.misuse .numberTooLarge) := by
  intro context given large stale calm failing skipped
  have hcalm : calm.Whole := by
    simp only [calm, whole_group_iff, List.forall_mem_cons]
    exact ⟨Whole.rule _, ⟨Whole.rule _, List.forall_mem_nil _⟩, Whole.rule _,
      List.forall_mem_nil _⟩
  have hfailing : failing.Whole := by
    simp only [failing, whole_group_iff, List.forall_mem_cons]
    exact ⟨Whole.rule _, ⟨Whole.rule _, Whole.rule _, List.forall_mem_nil _⟩, Whole.rule _,
      List.forall_mem_nil _⟩
  have hgiven : ∃ b, (evaluate context (rule given)).outcome = .ok b := ⟨true, rfl⟩
  have hstale : ∃ b, (evaluate context (rule stale)).outcome = .ok b := ⟨true, rfl⟩
  have hlarge : (evaluate context (rule large)).outcome = .error (.misuse .numberTooLarge) :=
    outcome_greater_of_too_large (by decide +kernel)
  have hrules : ∀ r ∈ calm.rules, ∃ b, (evaluate context (rule r)).outcome = .ok b := by
    simp only [calm, rules, rulesOfAll, List.cons_append, List.nil_append, List.forall_mem_cons]
    exact ⟨hgiven, hstale, hgiven, List.forall_mem_nil _⟩
  have hbefore : ∀ r ∈ [given, stale], ∃ b, (evaluate context (rule r)).outcome = .ok b := by
    simp only [List.forall_mem_cons]
    exact ⟨hgiven, hstale, List.forall_mem_nil _⟩
  obtain ⟨hrecords, -⟩ := (evaluate_visits_rules context fun _ => hcalm).1 hrules
  obtain ⟨hrecordsBefore, hfails⟩ := (evaluate_visits_rules context fun _ => hfailing).2
    [given, stale] large [stale] _ rfl hbefore hlarge
  exact ⟨hcalm, hrecords, hfailing, hrecordsBefore, hfails⟩

end Condition

end SubmissionRouting
