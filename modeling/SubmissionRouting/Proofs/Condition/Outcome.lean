import SubmissionRouting.Condition.Evaluation
import SubmissionRouting.Proofs.Failure
import Mathlib.Tactic.SplitIfs

/-! # Outcomes of evaluation

The outcome of an evaluation without the journal, at each kind of condition: a rule on a field that
the catalog does not have has no opinion, any other rule has its verdict (`outcome_opinion_rule`), a
group combines the opinions of its children (`outcome_opinion_group`), and a condition without
opinion holds (`outcome_evaluate`). An evaluation fails only with the fault of a value or of a
condition (`ofValues_evaluate`), so never with that of a table or of references (`Unrouted`). -/

namespace SubmissionRouting

/-! ### Faults of evaluation -/

/-- The fault of a value or of a condition: nothing of payloads, catalogs, tables or references. -/
def Fault.OfValues : Fault → Prop
  | misuse _ | missingCondition => True
  | _ => False

/-- The result is no fault of a table or of references. -/
def Unrouted {α : Type} (x : Result α) : Prop := ∀ e, x ≠ .error (.routing e)

section
variable {α : Type}

theorem FailsOnly.unrouted {x : Result α} (h : FailsOnly Fault.OfValues x) :
    Unrouted x := by
  intro e he
  exact h _ he

theorem ofValues_orFault (x : Except Misuse α) : FailsOnly Fault.OfValues (orFault x) :=
  failsOnly_orFault fun _ _ => trivial

end

/-! ### Rules -/

namespace Rule

variable (context : Context) (r : Rule)

/-- The rule is on a field that the catalog does not have. -/
def isDangling : Bool := r.field.isKey && (context.catalog.get? r.field).isNone

/-- The verdict of a rule: that of its operator, given the slot of its field. -/
def verdict : Result Bool := do
  let field ← r.field.asKey
  match context.catalog.get? field with
  | none => pure true
  | some slot =>
    orFault (r.operator.holds ((context.values.get? field).getD .null) r.comparand slot)

theorem outcome_opinion :
    (r.opinion context).outcome =
      if r.isDangling context then .ok none else (r.verdict context).map some := by
  rw [opinion, verdict, isDangling, Journaled.outcome_bind, Journaled.outcome_liftM_misuse]
  by_cases hkey : r.field.isKey
  · rw [show r.field.asKey = .ok r.field from if_pos hkey, hkey, Bool.true_and]
    cases hslot : context.catalog.get? r.field with
    | none =>
      show Journaled.outcome _ = _
      simp only [hslot, Journaled.outcome_bind, Journaled.outcome_note]
      rfl
    | some slot =>
      show Journaled.outcome _ = Except.map some (Except.bind (.ok r.field) _)
      simp only [hslot, Journaled.outcome_bind, Journaled.outcome_liftM_misuse, Except.bind]
      cases orFault (r.operator.holds ((context.values.get? r.field).getD .null) r.comparand slot)
        <;> rfl
  · rw [show r.field.asKey = .error .unhashable from if_neg hkey]
    simp only [hkey, Bool.false_and]
    rfl

theorem ofValues_verdict : FailsOnly Fault.OfValues (r.verdict context) := by
  refine (ofValues_orFault r.field.asKey).bind fun field _ => ?_
  cases context.catalog.get? field with
  | none => exact failsOnly_ok true
  | some slot => exact ofValues_orFault _

end Rule

/-! ### Conditions -/

namespace Condition

/-- Induction over conditions: what holds of a group once it holds of its children holds of every
condition. -/
@[elab_as_elim]
theorem induction {motive : Condition → Prop} (missing : motive .missing)
    (rule : ∀ r, motive (.rule r))
    (group : ∀ k cs, (∀ c ∈ cs, motive c) → motive (.group k cs)) : ∀ c, motive c
  | .missing => missing
  | .rule r => rule r
  | .group k cs => group k cs fun c _ => induction missing rule group c

variable (context : Context)

theorem outcome_opinions (cs : List Condition) :
    (opinions context cs).outcome = cs.mapM fun c => (opinion context c).outcome := by
  induction cs with
  | nil => rfl
  | cons c cs ih =>
    rw [List.mapM_cons, ← ih, opinions]
    simp only [Journaled.outcome_bind, Journaled.outcome_pure]
    rfl

theorem outcome_opinion_rule (r : Rule) :
    (opinion context (rule r)).outcome =
      if r.isDangling context then .ok none else (r.verdict context).map some :=
  r.outcome_opinion context

theorem outcome_opinion_group (k : Combinator) (cs : List Condition) :
    (opinion context (group k cs)).outcome =
      (cs.mapM fun c => (opinion context c).outcome).map k.combine := by
  rw [← outcome_opinions, opinion, Journaled.outcome_bind]
  cases (opinions context cs).outcome <;> rfl

theorem outcome_evaluate {c : Condition} (h : c ≠ missing) :
    (evaluate context c).outcome = (opinion context c).outcome.map (·.getD true) := by
  unfold evaluate
  cases c with
  | missing => exact absurd rfl h
  | rule r =>
    rw [Journaled.outcome_bind]
    cases (opinion context (rule r)).outcome <;> rfl
  | group k cs =>
    rw [Journaled.outcome_bind]
    cases (opinion context (group k cs)).outcome <;> rfl

theorem ofValues_opinion (c : Condition) :
    FailsOnly Fault.OfValues (opinion context c).outcome := by
  induction c using Condition.induction with
  | missing => exact failsOnly_error trivial
  | rule r =>
    rw [outcome_opinion_rule]
    split_ifs
    · exact failsOnly_ok none
    · exact (r.ofValues_verdict context).map some
  | group k cs ih =>
    rw [outcome_opinion_group]
    exact (failsOnly_mapM ih).map k.combine

/-- **An evaluation fails only with the fault of a value or of a condition.** -/
theorem ofValues_evaluate (c : Condition) :
    FailsOnly Fault.OfValues (evaluate context c).outcome := by
  by_cases h : c = missing
  · subst h; exact failsOnly_ok true
  · rw [outcome_evaluate context h]
    exact (ofValues_opinion context c).map _

end Condition

end SubmissionRouting
