import SubmissionRouting.Proofs.Condition.Outcome
import SubmissionRouting.Proofs.Number.Integers
import Mathlib.Data.List.Forall2

/-! # Operators that read numbers

The comparisons, and equality in fields of the kind number, read some values as numbers and then judge
by what was read (`Operator.holds_eq_judge`). Reading fails at nothing but an integer that is too large
to be next to a number (`Value.number_cases`). So a rule with such an operator fails exactly if one of
the values that it reads is too large, and gives a verdict otherwise; and if the value or the comparand
does not denote a number, the verdict is that of a comparison that does not hold
(`Condition.numericVerdict`). -/

namespace SubmissionRouting

open Binary64 (roundingLimit)

/-! ### Values as numbers -/

namespace Value

/-- An integer that would be rounded to infinity. -/
def TooLarge (v : Value) : Prop := ∃ n, v = .int n ∧ roundingLimit ≤ n.natAbs

/-- A value that can be read as a number. -/
def DenotesNumber (v : Value) : Prop := ∃ x, v.number = .ok (some x)

theorem isEmpty_of_number {v : Value} {x : Binary64} (h : v.number = .ok (some x)) :
    v.isEmpty = false := by
  cases v with
  | int n => rfl
  | float y => rfl
  | text s =>
    refine beq_eq_false_iff_ne.mpr fun hs => ?_
    subst hs
    cases h
  | _ => cases h

/-- **Reading a number fails at too large integers only.** -/
theorem number_cases (v : Value) :
    v.TooLarge ∧ v.number = .error .numberTooLarge ∨ ¬ v.TooLarge ∧ ∃ x, v.number = .ok x := by
  cases v with
  | int n =>
    rcases Nat.lt_or_ge n.natAbs roundingLimit with hlt | hge
    · right
      have hsome : Binary64.ofInt? n ≠ none := by
        rw [Ne, Binary64.ofInt?_eq_none_iff]
        omega
      obtain ⟨x, hx⟩ := Option.ne_none_iff_exists'.mp hsome
      refine ⟨?_, some x, by rw [number, hx]⟩
      rintro ⟨m, hm, hlarge⟩
      obtain rfl := int.inj hm
      omega
    · exact .inl ⟨⟨n, rfl, hge⟩, by rw [number, Binary64.ofInt?_eq_none_iff.mpr hge]⟩
  | _ =>
    refine .inr ⟨?_, _, rfl⟩
    rintro ⟨n, hn, -⟩
    cases hn

theorem mapM_number_cases (vs : List Value) :
    (∃ v ∈ vs, v.TooLarge) ∧ vs.mapM number = .error .numberTooLarge ∨
      (∀ v ∈ vs, ¬ v.TooLarge) ∧ ∃ xs, vs.mapM number = .ok xs ∧
        List.Forall₂ (fun v x => v.number = .ok x) vs xs := by
  induction vs with
  | nil => exact .inr ⟨nofun, [], rfl, .nil⟩
  | cons v vs ih =>
    rw [List.mapM_cons]
    rcases number_cases v with ⟨hlarge, hv⟩ | ⟨hsmall, x, hv⟩
    · refine .inl ⟨⟨v, List.mem_cons_self, hlarge⟩, ?_⟩
      rw [hv]
      rfl
    rw [hv]
    rcases ih with ⟨⟨w, hw, hlarge⟩, hvs⟩ | ⟨hsmalls, xs, hvs, hread⟩
    · refine .inl ⟨⟨w, List.mem_cons_of_mem v hw, hlarge⟩, ?_⟩
      rw [hvs]
      rfl
    · refine .inr ⟨List.forall_mem_cons.mpr ⟨hsmall, hsmalls⟩, x :: xs, ?_, .cons hv hread⟩
      rw [hvs]
      rfl

end Value

namespace Operator

/-! ### What an operator reads -/

/-- The operators that compare numbers in fields of every kind. -/
def comparisons : List Operator := [greater, greaterOrEqual, less, lessOrEqual, between, notBetween]

/-- The operator reads numbers in fields of a kind. -/
def ReadsNumbers (o : Operator) (kind : FieldKind) : Prop :=
  o ∈ comparisons ∨ o ∈ [equals, notEquals] ∧ kind = .number

/-- The values that are read as numbers for a comparison with bounds. -/
def boundedOperands (value comparand : Value) : List Value :=
  match comparand.asList with
  | [low, high] => [value, low, high]
  | _ => [value]

/-- The values that an operator reads as numbers. -/
def operands (o : Operator) (value comparand : Value) : List Value :=
  match o with
  | between | notBetween => boundedOperands value comparand
  | equals | notEquals => if value.isEmpty then [] else [value, comparand]
  | _ => [value, comparand]

/-- The value and the comparand denote the numbers that the operator needs. -/
def Numeric (o : Operator) (value comparand : Value) : Prop :=
  match o with
  | between | notBetween => value.DenotesNumber ∧
      ∃ low high, comparand.asList = [low, high] ∧ low.DenotesNumber ∧ high.DenotesNumber
  | _ => value.DenotesNumber ∧ comparand.DenotesNumber

/-- What a comparison says of the numbers that were read. -/
def judgePair (relation : Binary64 → Binary64 → Bool) : List (Option Binary64) → Bool
  | [some x, some y] => relation x y
  | _ => false

/-- What a comparison with bounds says of the numbers that were read. -/
def judgeBounds (inside : Bool) : List (Option Binary64) → Bool
  | [some x, some low, some high] => (low.atMost x && x.atMost high) == inside
  | _ => false

/-- What an operator says of the numbers that were read. -/
def judge : Operator → List (Option Binary64) → Bool
  | greater => judgePair fun x y => y.less x
  | greaterOrEqual => judgePair fun x y => y.atMost x
  | less => judgePair Binary64.less
  | lessOrEqual => judgePair Binary64.atMost
  | between => judgeBounds true
  | notBetween => judgeBounds false
  | equals => judgePair Binary64.same
  | notEquals => fun xs => !judgePair Binary64.same xs
  | _ => fun _ => false

/-! ### Operators read and then judge -/

section
variable (value comparand : Value)

theorem compare_eq_judgePair (relation : Binary64 → Binary64 → Bool) :
    compare relation value comparand =
      ([value, comparand].mapM Value.number).map (judgePair relation) := by
  unfold compare
  rw [List.mapM_cons, List.mapM_cons, List.mapM_nil]
  cases value.number with
  | error e => rfl
  | ok x =>
    cases comparand.number with
    | error e => rfl
    | ok y => cases x <;> cases y <;> rfl

theorem boundedOperands_of_two {low high : Value} (h : comparand.asList = [low, high]) :
    boundedOperands value comparand = [value, low, high] := by
  unfold boundedOperands
  rw [h]

theorem boundedOperands_of_not_two (h : ∀ low high, comparand.asList ≠ [low, high]) :
    boundedOperands value comparand = [value] := by
  unfold boundedOperands
  split
  · next low high hitems => exact absurd hitems (h low high)
  · rfl

theorem compareBounds_eq_judgeBounds (inside : Bool) :
    compareBounds inside value comparand =
      ((boundedOperands value comparand).mapM Value.number).map (judgeBounds inside) := by
  unfold compareBounds bounds
  by_cases htwo : ∃ low high, comparand.asList = [low, high]
  · obtain ⟨low, high, hitems⟩ := htwo
    rw [boundedOperands_of_two value comparand hitems, hitems, List.mapM_cons, List.mapM_cons,
      List.mapM_cons, List.mapM_nil]
    dsimp only
    cases value.number with
    | error e => rfl
    | ok x =>
      cases low.number with
      | error e => rfl
      | ok a =>
        cases high.number with
        | error e => rfl
        | ok b => cases x <;> cases a <;> cases b <;> rfl
  · have hnot : ∀ low high, comparand.asList ≠ [low, high] :=
      fun low high h => htwo ⟨low, high, h⟩
    rw [boundedOperands_of_not_two value comparand hnot, List.mapM_cons, List.mapM_nil]
    split
    · next low high hitems => exact absurd hitems (hnot low high)
    · cases value.number with
      | error e => rfl
      | ok x => cases x <;> rfl

end

/-- **An operator that reads numbers reads its operands and judges by the numbers.** -/
theorem holds_eq_judge {o : Operator} {slot : Slot} (ho : o.ReadsNumbers slot.kind)
    (value comparand : Value) :
    o.holds value comparand slot =
      ((o.operands value comparand).mapM Value.number).map o.judge := by
  have hequals (hkind : slot.kind = .number) : equalsHolds value comparand slot =
      ((equals.operands value comparand).mapM Value.number).map equals.judge := by
    unfold equalsHolds operands
    rw [hkind]
    by_cases hempty : value.isEmpty = true
    · rw [if_pos hempty, if_pos hempty]
      rfl
    · rw [if_neg hempty, if_neg hempty]
      exact compare_eq_judgePair value comparand _
  rcases ho with ho | ⟨ho, hkind⟩
  · cases o with
    | greater => exact compare_eq_judgePair value comparand _
    | greaterOrEqual => exact compare_eq_judgePair value comparand _
    | less => exact compare_eq_judgePair value comparand _
    | lessOrEqual => exact compare_eq_judgePair value comparand _
    | between => exact compareBounds_eq_judgeBounds value comparand true
    | notBetween => exact compareBounds_eq_judgeBounds value comparand false
    | _ => exact absurd ho (by decide)
  · cases o with
    | equals => exact hequals hkind
    | notEquals =>
      show negated (equalsHolds value comparand slot) = _
      rw [hequals hkind]
      show Except.map _ (Except.map _ (List.mapM Value.number (equals.operands value comparand))) =
        Except.map _ (List.mapM Value.number (equals.operands value comparand))
      cases (equals.operands value comparand).mapM Value.number <;> rfl
    | _ => exact absurd ho (by decide)

/-! ### Values that denote no number -/

section
variable {value comparand : Value} {xs : List (Option Binary64)}

theorem judgePair_of_not_numeric
    (hread : List.Forall₂ (fun v x => v.number = .ok x) [value, comparand] xs)
    (h : ¬ (value.DenotesNumber ∧ comparand.DenotesNumber))
    (relation : Binary64 → Binary64 → Bool) : judgePair relation xs = false := by
  obtain _ | ⟨hx, _ | ⟨hy, _ | _⟩⟩ := hread
  next x y =>
    cases x with
    | none => rfl
    | some x =>
      cases y with
      | none => rfl
      | some y => exact absurd ⟨⟨x, hx⟩, y, hy⟩ h

theorem judgeBounds_of_not_numeric
    (hread : List.Forall₂ (fun v x => v.number = .ok x) (boundedOperands value comparand) xs)
    (h : ¬ between.Numeric value comparand) (inside : Bool) : judgeBounds inside xs = false := by
  by_cases htwo : ∃ low high, comparand.asList = [low, high]
  · obtain ⟨low, high, hitems⟩ := htwo
    rw [boundedOperands_of_two value comparand hitems] at hread
    obtain _ | ⟨hx, _ | ⟨ha, _ | ⟨hb, _ | _⟩⟩⟩ := hread
    next x a b =>
      cases x with
      | none => rfl
      | some x =>
        cases a with
        | none => rfl
        | some a =>
          cases b with
          | none => rfl
          | some b => exact absurd ⟨⟨x, hx⟩, low, high, hitems, ⟨a, ha⟩, b, hb⟩ h
  · rw [boundedOperands_of_not_two value comparand fun low high h => htwo ⟨low, high, h⟩] at hread
    obtain _ | ⟨hx, _ | _⟩ := hread
    next x => cases x <;> rfl

/-- **What does not denote a number satisfies no operator** but inequality. -/
theorem judge_of_not_numeric {o : Operator} {kind : FieldKind} (ho : o.ReadsNumbers kind)
    (hread : List.Forall₂ (fun v x => v.number = .ok x) (o.operands value comparand) xs)
    (h : ¬ o.Numeric value comparand) : o.judge xs = (o == notEquals) := by
  have hequals (hread : List.Forall₂ (fun v x => v.number = .ok x) (equals.operands value comparand) xs)
      (h : ¬ equals.Numeric value comparand) : judgePair Binary64.same xs = false := by
    by_cases hempty : value.isEmpty = true
    · rw [show equals.operands value comparand = [] from if_pos hempty] at hread
      cases hread
      rfl
    · rw [show equals.operands value comparand = [value, comparand] from if_neg hempty] at hread
      exact judgePair_of_not_numeric hread h _
  have ho : o ∈ comparisons ∨ o ∈ [equals, notEquals] := ho.imp_right And.left
  cases o with
  | greater => exact judgePair_of_not_numeric hread h _
  | greaterOrEqual => exact judgePair_of_not_numeric hread h _
  | less => exact judgePair_of_not_numeric hread h _
  | lessOrEqual => exact judgePair_of_not_numeric hread h _
  | between => exact judgeBounds_of_not_numeric hread h true
  | notBetween => exact judgeBounds_of_not_numeric hread h false
  | equals => exact hequals hread h
  | notEquals => exact congrArg (!·) (hequals hread h)
  | _ => exact absurd ho (by decide)

end

/-! ### Verdicts -/

/-- What comes out of an operator that reads numbers. -/
structure NumericVerdict (o : Operator) (value comparand : Value) (outcome : Result Bool) : Prop where
  /-- It fails exactly if it reads a too large integer. -/
  fails_iff : outcome = .error (.misuse .numberTooLarge) ↔
    ∃ v ∈ o.operands value comparand, v.TooLarge
  /-- Otherwise there is a verdict. -/
  decides : (∀ v ∈ o.operands value comparand, ¬ v.TooLarge) → ∃ b, outcome = .ok b
  /-- What does not denote a number satisfies no operator but inequality. -/
  notNumeric : (∀ v ∈ o.operands value comparand, ¬ v.TooLarge) → ¬ o.Numeric value comparand →
    outcome = .ok (o == notEquals)

theorem numericVerdict_holds {o : Operator} {slot : Slot} (ho : o.ReadsNumbers slot.kind)
    (value comparand : Value) :
    o.NumericVerdict value comparand (orFault (o.holds value comparand slot)) := by
  rw [holds_eq_judge ho]
  rcases Value.mapM_number_cases (o.operands value comparand) with
    ⟨hlarge, hread⟩ | ⟨hsmall, xs, hread, hnumbers⟩
  · have hnot (h : ∀ v ∈ o.operands value comparand, ¬ v.TooLarge) : False := by
      obtain ⟨v, hv, htoo⟩ := hlarge
      exact h v hv htoo
    rw [hread]
    exact ⟨iff_of_true rfl hlarge, fun h => (hnot h).elim, fun h => (hnot h).elim⟩
  · rw [hread]
    refine ⟨iff_of_false nofun ?_, fun _ => ⟨_, rfl⟩, fun _ h => ?_⟩
    · rintro ⟨v, hv, htoo⟩
      exact hsmall v hv htoo
    · exact congrArg Except.ok (judge_of_not_numeric ho hnumbers h)

end Operator

/-! ### Rules -/

namespace Condition

variable {context : Context} {r : Rule} {slot : Slot}

theorem outcome_evaluate_rule (hfield : r.field.isKey = true)
    (hslot : context.catalog.get? r.field = some slot) :
    (evaluate context (.rule r)).outcome =
      orFault (r.operator.holds ((context.values.get? r.field).getD .null) r.comparand slot) := by
  have hdangling : r.isDangling context = false := by
    unfold Rule.isDangling
    rw [hslot, hfield]
    rfl
  have hverdict : r.verdict context =
      orFault (r.operator.holds ((context.values.get? r.field).getD .null) r.comparand slot) := by
    have hkey : r.field.asKey = .ok r.field := if_pos hfield
    unfold Rule.verdict
    simp only [hkey, liftM_ok, ok_bind, hslot]
  have hgiven : rule r ≠ missing := by simp
  rw [outcome_evaluate context hgiven, outcome_opinion_rule, hdangling, hverdict]
  cases orFault (r.operator.holds ((context.values.get? r.field).getD .null) r.comparand slot) <;>
    rfl

/-- **A rule that compares numbers** fails exactly if it reads an integer that is too large; otherwise it
gives a verdict, which without numbers is that of a comparison that does not hold. Inequality is the
negation of equality. -/
theorem numericVerdict (context : Context) (r : Rule) (hfield : r.field.isKey = true)
    (hslot : context.catalog.get? r.field = some slot)
    (ho : r.operator.ReadsNumbers slot.kind) :
    r.operator.NumericVerdict ((context.values.get? r.field).getD .null) r.comparand
        (evaluate context (.rule r)).outcome ∧
      (evaluate context (.rule { r with operator := .notEquals })).outcome =
        (evaluate context (.rule { r with operator := .equals })).outcome.map (!·) := by
  constructor
  · rw [outcome_evaluate_rule hfield hslot]
    exact Operator.numericVerdict_holds ho _ _
  · rw [outcome_evaluate_rule (r := { r with operator := .notEquals }) hfield hslot,
      outcome_evaluate_rule (r := { r with operator := .equals }) hfield hslot]
    show orFault (Operator.negated (Operator.equalsHolds _ _ _)) =
      (orFault (Operator.equalsHolds _ _ _)).map _
    cases Operator.equalsHolds ((context.values.get? r.field).getD .null) r.comparand slot <;> rfl

/-- What a rule reads of a field of the kind number. -/
def numberSlot : Slot := ⟨.number, []⟩

/-- A field `x` of the kind number with an answer. -/
def numberContext (answer : Value) : Context := ⟨[(.text "x", answer)], [(.text "x", numberSlot)]⟩

/-- An answer that is no number, in a rule that asks whether it differs from one. -/
theorem numericVerdict_of_word :
    (Value.text "x").isKey = true ∧
      (numberContext (.text "many")).catalog.get? (.text "x") = some numberSlot ∧
      Operator.notEquals.ReadsNumbers numberSlot.kind ∧
      Operator.notEquals.NumericVerdict (.text "many") (.int 5)
        (evaluate (numberContext (.text "many")) (.rule ⟨.text "x", .notEquals, .int 5⟩)).outcome := by
  have hslot : (numberContext (.text "many")).catalog.get? (.text "x") = some numberSlot := rfl
  have hreads : Operator.notEquals.ReadsNumbers numberSlot.kind := .inr ⟨by decide, rfl⟩
  exact ⟨rfl, hslot, hreads, (numericVerdict (numberContext (.text "many"))
    ⟨.text "x", .notEquals, .int 5⟩ rfl hslot hreads).1⟩

theorem outcome_greater_of_too_large {n : Nat} (h : roundingLimit ≤ n) :
    (evaluate (numberContext (.int n)) (.rule ⟨.text "x", .greater, .int 1⟩)).outcome =
      .error (.misuse .numberTooLarge) := by
  have hslot : (numberContext (.int n)).catalog.get? (.text "x") = some numberSlot := rfl
  have hreads : Operator.greater.ReadsNumbers numberSlot.kind := .inl (by decide)
  have hverdict := Operator.numericVerdict_holds hreads (.int n) (.int 1)
  have hlarge : (Value.int n).TooLarge := ⟨n, rfl, h⟩
  rw [outcome_evaluate_rule (r := ⟨.text "x", .greater, .int 1⟩) rfl hslot]
  exact hverdict.fails_iff.mpr ⟨_, List.mem_cons_self, hlarge⟩

/-- An integer of 401 digits makes a comparison fail. -/
theorem too_large_integer_fails :
    (evaluate (numberContext (.int (Nat.pow 10 400))) (.rule ⟨.text "x", .greater, .int 1⟩)).outcome =
      .error (.misuse .numberTooLarge) :=
  outcome_greater_of_too_large (by decide +kernel)

end Condition

end SubmissionRouting
