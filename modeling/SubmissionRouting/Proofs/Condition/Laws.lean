import SubmissionRouting.Proofs.Condition.Decoded

/-! # Laws of groups

Conditions obey laws of Boolean algebra (`Condition.Law`), also where rules are dangling and where
groups are empty. The laws hold of opinions, of which there are three kinds
(`Condition.Law.outcome_opinion_eq`), and so they hold at any position inside a condition, whatever
stands around it (`Condition.Replaced.outcome_opinion_eq`). There evaluation stays the same
(`Condition.evaluate_of_replaced`).

Only the law that children may change places needs that no rule fails. The other laws leave the
rules in their order, and with them the first that fails. -/

namespace SubmissionRouting

open Relation

/-! ### Opinions of groups -/

namespace Combinator

variable {rs rs' : List (Option Bool)}

theorem combine_congr (k : Combinator) (h : ∀ o, o ∈ rs ↔ o ∈ rs') :
    k.combine rs = k.combine rs' := by
  have hmem (b : Bool) : b ∈ rs.filterMap id ↔ b ∈ rs'.filterMap id := by
    simp only [List.mem_filterMap, id_eq, exists_eq_right, h]
  have hempty : rs.isEmpty = rs'.isEmpty := by
    rw [Bool.eq_iff_iff, List.isEmpty_iff, List.isEmpty_iff, List.eq_nil_iff_forall_not_mem,
      List.eq_nil_iff_forall_not_mem]
    simp only [h]
  have hnone : (rs.filterMap id).isEmpty = (rs'.filterMap id).isEmpty := by
    rw [Bool.eq_iff_iff, List.isEmpty_iff, List.isEmpty_iff, List.eq_nil_iff_forall_not_mem,
      List.eq_nil_iff_forall_not_mem]
    simp only [hmem]
  have hall : (rs.filterMap id).all id = (rs'.filterMap id).all id := by
    rw [Bool.eq_iff_iff, List.all_eq_true, List.all_eq_true]
    simp only [hmem]
  have hany : (rs.filterMap id).any id = (rs'.filterMap id).any id := by
    rw [Bool.eq_iff_iff, List.any_eq_true, List.any_eq_true]
    simp only [hmem]
  rw [Condition.combine_eq, Condition.combine_eq, hempty, hnone]
  cases k <;> simp only [truth, hall, hany]

/-- The opinion of the negation of a child. -/
def negated (o : Option Bool) : Option Bool := o.map (!·)

theorem combine_not_singleton (o : Option Bool) : not.combine [o] = negated o := by
  rcases o with _ | _ | _ <;> rfl

theorem negated_negated (o : Option Bool) : negated (negated o) = o := by
  rcases o with _ | _ | _ <;> rfl

theorem filterMap_map_negated (rs : List (Option Bool)) :
    (rs.map negated).filterMap id = (rs.filterMap id).map (!·) := by
  rw [List.filterMap_map, List.map_filterMap]
  rfl

theorem combine_or_map_negated (rs : List (Option Bool)) :
    or.combine (rs.map negated) = negated (and.combine rs) := by
  have htruth : or.truth ((rs.filterMap id).map (!·)) = !and.truth (rs.filterMap id) := by
    simp only [truth, List.any_map, List.not_all_eq_any_not]
    rfl
  rw [Condition.combine_eq, Condition.combine_eq, filterMap_map_negated, List.isEmpty_map,
    List.isEmpty_map, htruth]
  split_ifs <;> rfl

theorem combine_and_map_negated (rs : List (Option Bool)) :
    and.combine (rs.map negated) = negated (or.combine rs) := by
  have htwice : (rs.map negated).map negated = rs := by
    rw [List.map_map]
    exact (List.map_congr_left fun o _ => negated_negated o).trans (List.map_id rs)
  rw [← negated_negated (and.combine _), ← combine_or_map_negated, htwice]

theorem combine_not (rs : List (Option Bool)) : not.combine rs = negated (and.combine rs) := by
  rw [Condition.combine_eq, Condition.combine_eq]
  split_ifs <;> rfl

theorem combine_of_no_opinion (k : Combinator) (filled : rs ≠ []) (h : rs.filterMap id = []) :
    k.combine rs = none := by
  rw [Condition.combine_eq, h, List.isEmpty_eq_false_iff.mpr filled]
  rfl

theorem combine_of_opinions (k : Combinator) (h : rs.filterMap id ≠ []) :
    k.combine rs = some (k.truth (rs.filterMap id)) := by
  rw [Condition.combine_eq, List.isEmpty_eq_false_iff.mpr h, Bool.and_false]
  rfl

theorem truth_flatten {k : Combinator} (hk : k ≠ not) (before inner after : List Bool) :
    k.truth (before ++ k.truth inner :: after) = k.truth (before ++ inner ++ after) := by
  cases k with
  | and => simp [truth]
  | or => simp [truth]
  | not => exact absurd rfl hk

/-- A child that combines as its parent does may be replaced by its own children, if it has any: a
group without children has an opinion. -/
theorem combine_flatten {k : Combinator} (hk : k ≠ not) {inner : List (Option Bool)}
    (filled : inner ≠ []) (before after : List (Option Bool)) :
    k.combine (before ++ k.combine inner :: after) = k.combine (before ++ inner ++ after) := by
  by_cases hnone : inner.filterMap id = []
  · have hopinions : (before ++ none :: after).filterMap id =
        (before ++ inner ++ after).filterMap id := by
      rw [List.filterMap_append, List.filterMap_append, List.filterMap_append, hnone,
        List.append_nil]
      rfl
    have hfilled : (before ++ inner ++ after).isEmpty = false := by simp [filled]
    have hempty : (before ++ none :: after).isEmpty = false := by simp
    rw [combine_of_no_opinion k filled hnone, Condition.combine_eq, Condition.combine_eq,
      hopinions, hfilled, hempty]
  · have hopinions : (before ++ some (k.truth (inner.filterMap id)) :: after).filterMap id =
        before.filterMap id ++ k.truth (inner.filterMap id) :: after.filterMap id := by
      rw [List.filterMap_append]
      rfl
    have hinner : (before ++ inner ++ after).filterMap id =
        before.filterMap id ++ inner.filterMap id ++ after.filterMap id := by
      rw [List.filterMap_append, List.filterMap_append]
    have hleft : (before ++ some (k.truth (inner.filterMap id)) :: after).filterMap id ≠ [] := by
      rw [hopinions]
      exact List.append_ne_nil_of_right_ne_nil _ (List.cons_ne_nil _ _)
    have hright : (before ++ inner ++ after).filterMap id ≠ [] := by
      rw [hinner]
      exact List.append_ne_nil_of_left_ne_nil (List.append_ne_nil_of_right_ne_nil _ hnone) _
    rw [combine_of_opinions k hnone, combine_of_opinions k hleft, combine_of_opinions k hright,
      hopinions, hinner, truth_flatten hk]

end Combinator

namespace Condition

/-! ### Laws -/

/-- The negation of a condition. -/
def negation (c : Condition) : Condition := group .not [c]

/-- A condition, and one that may stand for it. -/
inductive Law : Condition → Condition → Prop
  /-- The children change places, or stand more than once. -/
  | members {k : Combinator} {cs cs' : List Condition} (same : ∀ c, c ∈ cs ↔ c ∈ cs') :
    Law (group k cs) (group k cs')
  /-- A child that combines as its parent does, and has children, is replaced by these. -/
  | flatten {k : Combinator} (hk : k ≠ .not) {inner : List Condition} (filled : inner ≠ [])
    (before after : List Condition) :
    Law (group k (before ++ group k inner :: after)) (group k (before ++ inner ++ after))
  | not (cs : List Condition) : Law (group .not cs) (group .or (cs.map negation))
  | notOr (cs : List Condition) : Law (negation (group .or cs)) (group .and (cs.map negation))
  | notAnd (cs : List Condition) : Law (negation (group .and cs)) (group .not cs)
  | notNot (c : Condition) : Law (negation (negation c)) c

/-- At some position inside the condition, one that may stand for another replaces it. -/
inductive Replaced : Condition → Condition → Prop
  | here {c c' : Condition} (law : Law c c') : Replaced c c'
  | inside {k : Combinator} {before after : List Condition} {c c' : Condition}
    (step : Replaced c c') :
    Replaced (group k (before ++ c :: after)) (group k (before ++ c' :: after))

/-! ### Rules stay -/

section
variable {c c' : Condition} {r : Rule}

theorem rules_negation (c : Condition) : c.negation.rules = c.rules := List.append_nil _

theorem Law.mem_rules_iff (law : Law c c') : r ∈ c.rules ↔ r ∈ c'.rules := by
  have hnegations (cs : List Condition) : (cs.map negation).flatMap rules = cs.flatMap rules := by
    rw [List.flatMap_map]
    exact List.flatMap_congr fun c _ => rules_negation c
  cases law with
  | members same => simp only [mem_rules_group, same]
  | flatten hk filled before after =>
    simp only [rules_group, List.flatMap_append, List.flatMap_cons, List.append_assoc]
  | not cs => rw [rules_group, rules_group, hnegations]
  | notOr cs => rw [rules_negation, rules_group, rules_group, hnegations]
  | notAnd cs => rw [rules_negation, rules_group, rules_group]
  | notNot c => rw [rules_negation, rules_negation]

theorem Replaced.mem_rules_iff (h : Replaced c c') : r ∈ c.rules ↔ r ∈ c'.rules := by
  induction h with
  | here law => exact law.mem_rules_iff
  | inside step ih =>
    simp only [rules_group, List.flatMap_append, List.flatMap_cons, List.mem_append, ih]

end

/-! ### Opinions stay -/

section
variable (context : Context)

theorem outcome_opinion_negation (c : Condition) :
    (opinion context c.negation).outcome =
      (opinion context c).outcome.map Combinator.negated := by
  rw [negation, outcome_opinion_group, List.mapM_cons, List.mapM_nil]
  cases (opinion context c).outcome with
  | error e => rfl
  | ok o => exact congrArg Except.ok (Combinator.combine_not_singleton o)

theorem mapM_negation (cs : List Condition) :
    ((cs.map negation).mapM fun c => (opinion context c).outcome) =
      (cs.mapM fun c => (opinion context c).outcome).map (List.map Combinator.negated) := by
  induction cs with
  | nil => rfl
  | cons c cs ih =>
    rw [List.map_cons, List.mapM_cons, List.mapM_cons, ih, outcome_opinion_negation]
    cases (opinion context c).outcome with
    | error e => rfl
    | ok o => cases cs.mapM fun c => (opinion context c).outcome <;> rfl

theorem outcome_opinion_of_same_members {k : Combinator} {cs cs' : List Condition}
    (same : ∀ c, c ∈ cs ↔ c ∈ cs')
    (h : ∀ r ∈ (group k cs).rules, ∃ b, r.verdict context = .ok b) :
    (opinion context (group k cs)).outcome = (opinion context (group k cs')).outcome := by
  rw [outcome_opinion_group, outcome_opinion_group]
  have hfails : ∀ c ∈ cs, FailsOnly (· = Fault.missingCondition) (opinion context c).outcome :=
    fun c hc => failsOnly_opinion fun r hr => h r (rules_subset_group hc hr)
  by_cases hall : ∀ c ∈ cs, ∃ o, (opinion context c).outcome = .ok o
  · have hvalue : ∀ c, ∃ o, c ∈ cs → (opinion context c).outcome = .ok o := by
      intro c
      by_cases hc : c ∈ cs
      · obtain ⟨o, ho⟩ := hall c hc
        exact ⟨o, fun _ => ho⟩
      · exact ⟨none, fun h => absurd h hc⟩
    choose value hvalue using hvalue
    have hleft : (cs.mapM fun c => (opinion context c).outcome) = .ok (cs.map value) :=
      (mapM_congr hvalue).trans List.mapM_pure
    have hright : (cs'.mapM fun c => (opinion context c).outcome) = .ok (cs'.map value) :=
      (mapM_congr fun c hc => hvalue c ((same c).mpr hc)).trans List.mapM_pure
    rw [hleft, hright]
    refine congrArg Except.ok (Combinator.combine_congr k fun o => ?_)
    simp only [List.mem_map, same]
  · -- something is missing on both sides
    have hleft : (cs.mapM fun c => (opinion context c).outcome) = .error .missingCondition :=
      eq_error_of_failsOnly (failsOnly_mapM hfails) fun rs hrs =>
        hall (exists_ok_mapM_iff.mp ⟨rs, hrs⟩)
    have hright : (cs'.mapM fun c => (opinion context c).outcome) = .error .missingCondition := by
      refine eq_error_of_failsOnly (failsOnly_mapM fun c hc => hfails c ((same c).mpr hc))
        fun rs hrs => hall fun c hc => ?_
      exact exists_ok_mapM_iff.mp ⟨rs, hrs⟩ c ((same c).mp hc)
    rw [hleft, hright]

theorem outcome_opinion_flatten {k : Combinator} (hk : k ≠ .not) {inner : List Condition}
    (filled : inner ≠ []) (before after : List Condition) :
    (opinion context (group k (before ++ group k inner :: after))).outcome =
      (opinion context (group k (before ++ inner ++ after))).outcome := by
  rw [outcome_opinion_group, outcome_opinion_group, List.mapM_append, List.mapM_append,
    List.mapM_append, List.mapM_cons, outcome_opinion_group]
  rcases before.mapM fun c => (opinion context c).outcome with e | rs
  · rfl
  rcases hinner : inner.mapM fun c => (opinion context c).outcome with e | os
  · rfl
  rcases after.mapM fun c => (opinion context c).outcome with e | ts
  · rfl
  have hos : os ≠ [] := by
    obtain ⟨c, cs, rfl⟩ := List.exists_cons_of_ne_nil filled
    rw [List.mapM_cons] at hinner
    obtain ⟨o, -, hinner⟩ := exists_of_bind_eq_ok hinner
    obtain ⟨others, -, hinner⟩ := exists_of_bind_eq_ok hinner
    cases hinner
    exact List.cons_ne_nil o others
  exact congrArg Except.ok (Combinator.combine_flatten hk hos rs ts)

theorem Law.outcome_opinion_eq {c c' : Condition} (law : Law c c')
    (h : ∀ r ∈ c.rules, ∃ b, r.verdict context = .ok b) :
    (opinion context c).outcome = (opinion context c').outcome := by
  cases law with
  | members same => exact outcome_opinion_of_same_members context same h
  | flatten hk filled before after => exact outcome_opinion_flatten context hk filled before after
  | not cs =>
    rw [outcome_opinion_group, outcome_opinion_group, mapM_negation]
    rcases cs.mapM fun c => (opinion context c).outcome with e | rs
    · rfl
    · refine congrArg Except.ok ?_
      rw [Combinator.combine_not, Combinator.combine_or_map_negated]
  | notOr cs =>
    rw [outcome_opinion_negation, outcome_opinion_group, outcome_opinion_group, mapM_negation]
    rcases cs.mapM fun c => (opinion context c).outcome with e | rs
    · rfl
    · exact congrArg Except.ok (Combinator.combine_and_map_negated rs).symm
  | notAnd cs =>
    rw [outcome_opinion_negation, outcome_opinion_group, outcome_opinion_group]
    rcases cs.mapM fun c => (opinion context c).outcome with e | rs
    · rfl
    · exact congrArg Except.ok (Combinator.combine_not rs).symm
  | notNot c =>
    rw [outcome_opinion_negation, outcome_opinion_negation]
    rcases (opinion context c').outcome with e | o
    · rfl
    · exact congrArg Except.ok (Combinator.negated_negated o)

theorem Replaced.outcome_opinion_eq {c c' : Condition} (step : Replaced c c')
    (h : ∀ r ∈ c.rules, ∃ b, r.verdict context = .ok b) :
    (opinion context c).outcome = (opinion context c').outcome := by
  induction step with
  | here law => exact law.outcome_opinion_eq context h
  | @inside k before after c c' step ih =>
    have hchild := ih fun r hr =>
      h r (rules_subset_group (List.mem_append_right before List.mem_cons_self) hr)
    rw [outcome_opinion_group, outcome_opinion_group, List.mapM_append, List.mapM_append,
      List.mapM_cons, List.mapM_cons, hchild]

theorem eqv_of_replaced {c c' : Condition} (h : EqvGen Replaced c c') :
    (∀ r, r ∈ c.rules ↔ r ∈ c'.rules) ∧
      ((∀ r ∈ c.rules, ∃ b, r.verdict context = .ok b) →
        (opinion context c).outcome = (opinion context c').outcome) := by
  induction h with
  | rel c c' step => exact ⟨fun r => step.mem_rules_iff, step.outcome_opinion_eq context⟩
  | refl c => exact ⟨fun r => Iff.rfl, fun _ => rfl⟩
  | symm c c' _ ih =>
    refine ⟨fun r => (ih.1 r).symm, fun hverdicts => (ih.2 fun r hr => ?_).symm⟩
    exact hverdicts r ((ih.1 r).mp hr)
  | trans c c' c'' _ _ ih ih' =>
    refine ⟨fun r => (ih.1 r).trans (ih'.1 r), fun hverdicts => ?_⟩
    exact (ih.2 hverdicts).trans (ih'.2 fun r hr => hverdicts r ((ih.1 r).mpr hr))

/-- **Evaluation obeys the laws** at any position: where no rule fails, a condition and what
replacements make of it have the same opinion, and evaluate to the same. A missing condition, which
has no opinion to keep, is none by itself. -/
theorem evaluate_of_replaced {c c' : Condition} (h : EqvGen Replaced c c')
    (hverdicts : ∀ r ∈ c.rules, ∃ b, r.verdict context = .ok b) :
    (opinion context c').outcome = (opinion context c).outcome ∧
      (c ≠ missing → c' ≠ missing →
        (evaluate context c').outcome = (evaluate context c).outcome) := by
  have hopinion := ((eqv_of_replaced context h).2 hverdicts).symm
  refine ⟨hopinion, fun hc hc' => ?_⟩
  rw [outcome_evaluate context hc, outcome_evaluate context hc', hopinion]

end

/-- A negated *or* with a dangling rule in it becomes an *and*, whose children are taken into the
group around it, change places and stand twice. -/
theorem evaluate_of_replaced_negated_or :
    let context : Context := ⟨[(.text "a", .text "x")], [(.text "a", ⟨.text, []⟩)]⟩
    let stale : Rule := ⟨.text "b", .equals, .text "x"⟩
    let blank : Rule := ⟨.text "a", .isEmpty, .null⟩
    let c := group .and [negation (group .or [rule stale, rule blank])]
    let c' := group .and [negation (rule blank), negation (rule stale), negation (rule blank)]
    EqvGen Replaced c c' ∧ c ≠ missing ∧ c' ≠ missing ∧ (evaluate context c).outcome = .ok true ∧
      (evaluate context c').outcome = .ok true := by
  intro context stale blank c c'
  let negations := [negation (rule stale), negation (rule blank)]
  have hnegated : Replaced c (group .and [group .and negations]) :=
    @Replaced.inside .and [] [] _ _ (.here (.notOr [rule stale, rule blank]))
  have hflat : Replaced (group .and [group .and negations]) (group .and negations) := by
    have hk : Combinator.and ≠ .not := nofun
    exact .here (.flatten hk (List.cons_ne_nil _ _) [] [])
  have hmembers : Replaced (group .and negations) c' := by
    refine .here (.members fun d => ?_)
    simp only [negations, List.mem_cons, List.not_mem_nil, or_false]
    tauto
  have heqv : EqvGen Replaced c c' :=
    .trans _ _ _ (.rel _ _ hnegated) (.trans _ _ _ (.rel _ _ hflat) (.rel _ _ hmembers))
  have hrules : c.rules = [stale, blank] := rfl
  have hverdicts : ∀ r ∈ c.rules, ∃ b, r.verdict context = .ok b := by
    rw [hrules]
    simp only [List.forall_mem_cons]
    exact ⟨⟨true, rfl⟩, ⟨false, rfl⟩, nofun⟩
  have hsame := (evaluate_of_replaced context heqv hverdicts).2 nofun nofun
  exact ⟨heqv, nofun, nofun, rfl, hsame⟩

end Condition

end SubmissionRouting
