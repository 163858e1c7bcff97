import SubmissionRouting.Proofs.Condition.Outcome
import SubmissionRouting.Proofs.FirstFault
import Mathlib.Logic.Relation

/-! # Pruning

Dangling rules can be cut off before a condition is evaluated (`Condition.prune`): a group that had
children and lost all of them goes too, a group that never had any stays. What is left has a truth
value in the plain sense (`Condition.truth`) and fails with the first of its rules that fails
(`Condition.fault?`).

An evaluation is the plain evaluation of what is left, or holds if nothing is
(`evaluate_eq_prune`). In particular, dangling rules may come and go in any group that has another
child (`AddsDangling`). -/

namespace SubmissionRouting

open Relation

/-- The truth value of a group, given those of its children. -/
def Combinator.truth : Combinator → List Bool → Bool
  | and, bs => bs.all id
  | or, bs => bs.any id
  | not, bs => !bs.all id

/-- The verdict of a rule holds. -/
def Rule.holds (context : Context) (r : Rule) : Bool :=
  match r.verdict context with
  | .ok b => b
  | .error _ => false

theorem Rule.verdict_eq (context : Context) (r : Rule) :
    r.verdict context = unlessFault (errorOf? (r.verdict context)) (r.holds context) := by
  unfold Rule.holds
  cases r.verdict context <;> rfl

namespace Condition

/-! ### Plain evaluation -/

mutual

/-- The truth value of a condition, given those of its rules. -/
def truth (holds : Rule → Bool) : Condition → Bool
  | missing => true
  | rule r => holds r
  | group k children => k.truth (truths holds children)
termination_by structural c => c

/-- The truth values of several conditions. -/
def truths (holds : Rule → Bool) : List Condition → List Bool
  | [] => []
  | c :: cs => truth holds c :: truths holds cs
termination_by structural cs => cs

end

theorem truths_eq_map (holds : Rule → Bool) (cs : List Condition) :
    truths holds cs = cs.map (truth holds) := by
  induction cs with
  | nil => rfl
  | cons c cs ih => rw [truths, ih, List.map_cons]

/-- The fault of the first rule of a condition that fails. -/
def fault? (context : Context) (c : Condition) : Option Fault :=
  c.rules.findSome? fun r => errorOf? (r.verdict context)

theorem fault?_group (context : Context) (k : Combinator) (cs : List Condition) :
    (group k cs).fault? context = cs.findSome? (fault? context) := by
  rw [fault?, rules_group, findSome?_flatMap]
  rfl

/-! ### Pruning -/

mutual

/-- The condition without its dangling rules and without the groups that lose all their children;
nothing may be left. -/
def prune (context : Context) : Condition → Option Condition
  | missing => none
  | rule r => if r.isDangling context then none else some (rule r)
  | group k children =>
    let kept := pruneAll context children
    if !children.isEmpty && kept.isEmpty then none else some (group k kept)
termination_by structural c => c

/-- What is left of several conditions. -/
def pruneAll (context : Context) : List Condition → List Condition
  | [] => []
  | c :: cs => (prune context c).toList ++ pruneAll context cs
termination_by structural cs => cs

end

theorem pruneAll_eq_filterMap (context : Context) (cs : List Condition) :
    pruneAll context cs = cs.filterMap (prune context) := by
  induction cs with
  | nil => rfl
  | cons c cs ih =>
    rw [pruneAll, ih, List.filterMap_cons]
    cases prune context c <;> rfl

theorem prune_group (context : Context) (k : Combinator) (cs : List Condition) :
    prune context (group k cs) =
      if !cs.isEmpty && (cs.filterMap (prune context)).isEmpty then none
      else some (group k (cs.filterMap (prune context))) := by
  rw [prune, pruneAll_eq_filterMap]

/-- The condition is a rule, or a group of conditions in which nothing is missing. -/
inductive Whole : Condition → Prop
  | rule (r : Rule) : Whole (rule r)
  | group (k : Combinator) (cs : List Condition) (children : ∀ c ∈ cs, Whole c) : Whole (group k cs)

theorem Whole.ne_missing {c : Condition} (h : c.Whole) : c ≠ missing := by
  rintro rfl; cases h

theorem whole_group_iff {k : Combinator} {cs : List Condition} :
    (group k cs).Whole ↔ ∀ c ∈ cs, c.Whole := by
  constructor
  · rintro (_ | ⟨_, _, h⟩); exact h
  · exact Whole.group k cs

theorem whole_of_opinion {context : Context} {c : Condition} {o : Option Bool}
    (h : (opinion context c).outcome = .ok o) : c.Whole := by
  induction c using Condition.induction generalizing o with
  | missing => cases h
  | rule r => exact Whole.rule r
  | group k cs ih =>
    rw [outcome_opinion_group] at h
    obtain ⟨os, hos⟩ := exists_ok_map_iff.mp ⟨o, h⟩
    refine whole_group_iff.mpr fun c hc => ?_
    obtain ⟨o', ho'⟩ := exists_ok_mapM_iff.mp ⟨os, hos⟩ c hc
    exact ih c hc ho'

theorem whole_of_evaluate {context : Context} {c : Condition} {b : Bool}
    (h : (evaluate context c).outcome = .ok b) (hc : c ≠ missing) : c.Whole := by
  rw [outcome_evaluate context hc] at h
  obtain ⟨o, ho⟩ := exists_ok_map_iff.mp ⟨b, h⟩
  exact whole_of_opinion ho

/-! ### Evaluation prunes -/

section
variable (context : Context)

/-- The opinion of a group is none if all its children have none, or else its truth value over those
that have one. -/
theorem combine_eq (k : Combinator) (results : List (Option Bool)) :
    k.combine results =
      if !results.isEmpty && (results.filterMap id).isEmpty then none
      else some (k.truth (results.filterMap id)) := by
  cases k <;> rfl

/-- **The opinion of a condition is the truth value of what pruning leaves**, unless a rule that is
left fails. -/
theorem opinion_eq_prune {c : Condition} (h : c.Whole) :
    (opinion context c).outcome =
      unlessFault ((prune context c).bind (fault? context))
        ((prune context c).map (truth (Rule.holds context))) := by
  induction h with
  | rule r =>
    rw [outcome_opinion_rule, prune]
    split_ifs
    · rfl
    · rw [r.verdict_eq context, map_unlessFault]
      simp [fault?, rules, truth]
  | group k cs _ ih =>
    have hopinions : (cs.map fun c => (prune context c).map (truth (Rule.holds context))).filterMap
        id = (cs.filterMap (prune context)).map (truth (Rule.holds context)) := by
      rw [List.filterMap_map, List.map_filterMap]; rfl
    rw [outcome_opinion_group, mapM_unlessFault ih, map_unlessFault, prune_group, combine_eq,
      hopinions, List.isEmpty_map, List.isEmpty_map, ← findSome?_filterMap]
    split_ifs with hlost
    · have hkept : cs.filterMap (prune context) = [] := by
        rw [Bool.and_eq_true] at hlost
        exact List.isEmpty_iff.mp hlost.2
      rw [hkept]; rfl
    · simp only [Option.bind_some, Option.map_some, fault?_group, truth, truths_eq_map]

/-- **Evaluation is plain evaluation after pruning.** -/
theorem outcome_evaluate_eq_prune {c : Condition} (h : c ≠ missing → c.Whole) :
    (evaluate context c).outcome =
      match prune context c with
      | none => .ok true
      | some p => unlessFault (p.fault? context) (p.truth (Rule.holds context)) := by
  by_cases hc : c = missing
  · subst hc; rfl
  · rw [outcome_evaluate context hc, opinion_eq_prune context (h hc), map_unlessFault]
    cases prune context c <;> rfl

theorem eq_truth_of_evaluate {c : Condition} {b : Bool} (h : (evaluate context c).outcome = .ok b) :
    b = ((prune context c).map (truth (Rule.holds context))).getD true := by
  rw [outcome_evaluate_eq_prune context (whole_of_evaluate h)] at h
  cases hp : prune context c with
  | none =>
    rw [hp] at h
    exact (Except.ok.inj h).symm
  | some p =>
    rw [hp] at h
    dsimp only at h
    cases hf : p.fault? context with
    | none =>
      rw [hf] at h
      exact (Except.ok.inj h).symm
    | some e =>
      rw [hf] at h
      cases h

end

/-! ### Dangling rules come and go -/

/-- One dangling rule more, in a group that has another child. -/
inductive AddsDangling (context : Context) : Condition → Condition → Prop
  | here {k : Combinator} {before after : List Condition} {r : Rule}
    (dangling : r.isDangling context = true) (filled : before ++ after ≠ []) :
    AddsDangling context (group k (before ++ after)) (group k (before ++ rule r :: after))
  | inside {k : Combinator} {before after : List Condition} {c c' : Condition}
    (step : AddsDangling context c c') :
    AddsDangling context (group k (before ++ c :: after)) (group k (before ++ c' :: after))

section
variable {context : Context} {c c' : Condition}

theorem prune_rule_of_isDangling {r : Rule} (h : r.isDangling context = true) :
    prune context (rule r) = none := by
  rw [prune, if_pos h]

/-- **A dangling rule more leaves the same after pruning.** -/
theorem AddsDangling.prune_eq (h : AddsDangling context c c') :
    prune context c = prune context c' := by
  induction h with
  | @here k before after r dangling filled =>
    have hkept : (before ++ rule r :: after).filterMap (prune context) =
        (before ++ after).filterMap (prune context) := by
      rw [List.filterMap_append, List.filterMap_cons_none (prune_rule_of_isDangling dangling),
        List.filterMap_append]
    have hempty : (before ++ after).isEmpty = (before ++ rule r :: after).isEmpty := by
      rw [List.isEmpty_eq_false_iff.mpr filled, List.isEmpty_eq_false_iff.mpr (by simp)]
    rw [prune_group, prune_group, hkept, hempty]
  | inside step ih =>
    rw [prune_group, prune_group, List.filterMap_append, List.filterMap_append,
      List.filterMap_cons, List.filterMap_cons, ih]
    simp

theorem AddsDangling.whole_iff (h : AddsDangling context c c') : c.Whole ↔ c'.Whole := by
  induction h with
  | here dangling filled =>
    simp only [whole_group_iff, List.mem_append, List.mem_cons]
    constructor
    · rintro h d (hd | rfl | hd)
      · exact h d (Or.inl hd)
      · exact Whole.rule _
      · exact h d (Or.inr hd)
    · rintro h d (hd | hd)
      · exact h d (Or.inl hd)
      · exact h d (Or.inr (Or.inr hd))
  | inside step ih =>
    simp only [whole_group_iff, List.mem_append, List.mem_cons, or_imp, forall_and, forall_eq, ih]

theorem AddsDangling.ne_missing (h : AddsDangling context c c') : c ≠ missing ∧ c' ≠ missing := by
  cases h <;> exact ⟨nofun, nofun⟩

/-- What dangling rules that come and go do not change. -/
theorem eqv_of_addsDangling (h : EqvGen (AddsDangling context) c c') :
    prune context c = prune context c' ∧ ((c ≠ missing → c.Whole) ↔ (c' ≠ missing → c'.Whole)) := by
  induction h with
  | rel c c' step =>
    obtain ⟨hc, hc'⟩ := step.ne_missing
    exact ⟨step.prune_eq, by simp only [ne_eq, hc, hc', not_false_eq_true, true_imp_iff,
      step.whole_iff]⟩
  | refl c => exact ⟨rfl, Iff.rfl⟩
  | symm c c' _ ih => exact ⟨ih.1.symm, ih.2.symm⟩
  | trans c c' c'' _ _ ih ih' => exact ⟨ih.1.trans ih'.1, ih.2.trans ih'.2⟩

/-- **Evaluation is plain evaluation after pruning**, so that dangling rules may come and go
wherever a group has another child. -/
theorem evaluate_eq_prune (h : c ≠ missing → c.Whole) :
    (evaluate context c).outcome =
      (match prune context c with
        | none => .ok true
        | some p => unlessFault (p.fault? context) (p.truth (Rule.holds context))) ∧
    ∀ c', EqvGen (AddsDangling context) c c' →
      (evaluate context c').outcome = (evaluate context c).outcome := by
  refine ⟨outcome_evaluate_eq_prune context h, fun c' heqv => ?_⟩
  obtain ⟨hprune, hwhole⟩ := eqv_of_addsDangling heqv
  rw [outcome_evaluate_eq_prune context h, outcome_evaluate_eq_prune context (hwhole.mp h), hprune]

end

/-- A group that is emptied by pruning does not count as an empty one under a negation. -/
theorem evaluate_not_emptied :
    let context : Context := ⟨[], [(.text "a", ⟨.text, []⟩)]⟩
    let stale : Rule := ⟨.text "b", .equals, .text "x"⟩
    let present : Rule := ⟨.text "a", .isEmpty, .null⟩
    let c := group .not [group .or [rule stale], rule present]
    c.Whole ∧ (evaluate context c).outcome = .ok false ∧
      (evaluate context (group .not [group .or [rule stale], rule stale, rule present])).outcome =
        .ok false := by
  intro context stale present c
  have hwhole : c.Whole := by
    simp only [c, whole_group_iff, List.forall_mem_cons]
    exact ⟨⟨Whole.rule _, nofun⟩, Whole.rule _, nofun⟩
  have hstep : AddsDangling context c
      (group .not [group .or [rule stale], rule stale, rule present]) :=
    @AddsDangling.here context .not [group .or [rule stale]] [rule present] stale rfl (by simp)
  obtain ⟨hprune, hsame⟩ := @evaluate_eq_prune context c fun _ => hwhole
  exact ⟨hwhole, hprune, (hsame _ (.rel _ _ hstep)).trans hprune⟩

end Condition

end SubmissionRouting
