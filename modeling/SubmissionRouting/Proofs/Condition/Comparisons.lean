import SubmissionRouting.Proofs.Condition.Numeric
import Mathlib.Logic.Basic

/-! # Comparisons among each other

A value that denotes a number has a signed rank (`Value.HasRank`), the same for both zeros. A
comparison holds exactly if the values have ranks and these stand in the relation that it asks for
(`Operator.accepts_iff`), and a comparison with bounds if the value and the two bounds have ranks
in the order that it asks for (`Operator.compareBounds_iff`).

Since ranks are integers, the operators keep to each other (`Operator.comparisons_consistent`): two
numbers stand in exactly one of three relations, and a number lies between bounds or outside of
them. -/

namespace SubmissionRouting

/-! ### Signed ranks -/

theorem Binary64.related_of_keys {x y : Binary64} {j k : Int} (hx : x.key? = some j)
    (hy : y.key? = some k) (r : Int → Int → Bool) : related r x y = r j k := by
  unfold related
  rw [hx, hy]

namespace Value

variable {v : Value}

/-- The value denotes a number of a signed rank. -/
def HasRank (v : Value) (k : Int) : Prop := ∃ x, v.number = .ok (some x) ∧ x.key? = some k

theorem HasRank.unique {j k : Int} (hj : v.HasRank j) (hk : v.HasRank k) : j = k := by
  obtain ⟨x, hx, hxj⟩ := hj
  obtain ⟨y, hy, hyk⟩ := hk
  obtain rfl : x = y := by simpa [hx] using hy
  simpa [hxj] using hyk

theorem HasRank.denotesNumber {k : Int} (h : v.HasRank k) : v.DenotesNumber := by
  obtain ⟨x, hx, -⟩ := h
  exact ⟨x, hx⟩

theorem isNaN_of_number {x : Binary64} (h : v.number = .ok (some x)) : x.isNaN = false := by
  cases v with
  | int n =>
    unfold number Binary64.ofInt? at h
    dsimp only at h
    split_ifs at h
    cases h
    rfl
  | float y =>
    have hread : (if y.isNaN then none else some y) = some x := Except.ok.inj h
    split_ifs at hread with hy
    cases hread
    simpa using hy
  | text s =>
    have hread : (Binary64.ofText? s).filter (!·.isNaN) = some x := Except.ok.inj h
    simpa using (Option.filter_eq_some_iff.mp hread).2
  | _ => cases h

theorem exists_key?_of_number {x : Binary64} (h : v.number = .ok (some x)) :
    ∃ k, x.key? = some k := by
  have hreal := isNaN_of_number h
  cases x with
  | nan mark => cases hreal
  | ranked negative rank => exact ⟨_, rfl⟩

/-- **A value denotes a number** if and only if it has a signed rank. -/
theorem denotesNumber_iff : v.DenotesNumber ↔ ∃ k, v.HasRank k := by
  constructor
  · rintro ⟨x, hx⟩
    obtain ⟨k, hk⟩ := exists_key?_of_number hx
    exact ⟨k, x, hx, hk⟩
  · rintro ⟨k, hk⟩
    exact hk.denotesNumber

end Value

namespace Operator

/-- The verdict of the operator is that it holds. -/
def Accepts (o : Operator) (value comparand : Value) (slot : Slot) : Prop :=
  o.holds value comparand slot = .ok true

/-- The operators that compare with one number. -/
def pairings : List Operator := [equals, greater, greaterOrEqual, less, lessOrEqual]

/-- What a comparison with one number asks of the signed ranks. -/
def Relates : Operator → Int → Int → Prop
  | equals => fun j k => j = k
  | greater => fun j k => k < j
  | greaterOrEqual => fun j k => k ≤ j
  | less => fun j k => j < k
  | lessOrEqual => fun j k => j ≤ k
  | _ => fun _ _ => False

/-! ### What comparisons ask of ranks -/

section
variable {value comparand low high : Value}

theorem compare_iff {relation : Binary64 → Binary64 → Bool} {R : Int → Int → Prop}
    (h : ∀ {x y j k}, x.key? = some j → y.key? = some k → (relation x y = true ↔ R j k)) :
    compare relation value comparand = .ok true ↔
      ∃ j k, value.HasRank j ∧ comparand.HasRank k ∧ R j k := by
  constructor
  · intro haccepts
    obtain ⟨left, hx, haccepts⟩ := exists_of_bind_eq_ok haccepts
    obtain ⟨right, hy, haccepts⟩ := exists_of_bind_eq_ok haccepts
    rcases left with _ | x
    · cases haccepts
    rcases right with _ | y
    · cases haccepts
    obtain ⟨j, hj⟩ := Value.exists_key?_of_number hx
    obtain ⟨k, hk⟩ := Value.exists_key?_of_number hy
    have hrelation : relation x y = true := Except.ok.inj haccepts
    exact ⟨j, k, ⟨x, hx, hj⟩, ⟨y, hy, hk⟩, (h hj hk).mp hrelation⟩
  · rintro ⟨j, k, ⟨x, hx, hj⟩, ⟨y, hy, hk⟩, hR⟩
    have hrelation : relation x y = true := (h hj hk).mpr hR
    unfold compare
    rw [hx, ok_bind, hy, ok_bind]
    exact congrArg Except.ok hrelation

/-- **A comparison with one number** holds exactly if both values have ranks in the relation that it
asks for. -/
theorem accepts_iff (o : Operator) {slot : Slot} (ho : o ∈ pairings)
    (hkind : o = equals → slot.kind = .number) :
    o.Accepts value comparand slot ↔
      ∃ j k, value.HasRank j ∧ comparand.HasRank k ∧ o.Relates j k := by
  cases o with
  | equals =>
    show equalsHolds value comparand slot = .ok true ↔ _
    unfold equalsHolds
    rw [hkind rfl]
    by_cases hempty : value.isEmpty = true
    · rw [if_pos hempty]
      refine iff_of_false nofun ?_
      rintro ⟨j, k, ⟨x, hx, -⟩, -⟩
      rw [Value.isEmpty_of_number hx] at hempty
      cases hempty
    · rw [if_neg hempty]
      exact compare_iff fun hx hy => by
        rw [Binary64.same, Binary64.related_of_keys hx hy, beq_iff_eq, Relates]
  | greater =>
    exact compare_iff fun hx hy => by
      rw [Binary64.less, Binary64.related_of_keys hy hx, decide_eq_true_iff, Relates]
  | greaterOrEqual =>
    exact compare_iff fun hx hy => by
      rw [Binary64.atMost, Binary64.related_of_keys hy hx, decide_eq_true_iff, Relates]
  | less =>
    exact compare_iff fun hx hy => by
      rw [Binary64.less, Binary64.related_of_keys hx hy, decide_eq_true_iff, Relates]
  | lessOrEqual =>
    exact compare_iff fun hx hy => by
      rw [Binary64.atMost, Binary64.related_of_keys hx hy, decide_eq_true_iff, Relates]
  | _ => exact absurd ho (by decide)

theorem accepts_of_ranks (o : Operator) {slot : Slot} (ho : o ∈ pairings)
    (hkind : o = equals → slot.kind = .number) {j k : Int} (hj : value.HasRank j)
    (hk : comparand.HasRank k) : o.Accepts value comparand slot ↔ o.Relates j k := by
  rw [accepts_iff o ho hkind]
  constructor
  · rintro ⟨j', k', hj', hk', h⟩
    rwa [hj.unique hj', hk.unique hk']
  · exact fun h => ⟨j, k, hj, hk, h⟩

theorem bounds_iff (hitems : comparand.asList = [low, high]) {a b : Binary64} :
    bounds comparand = .ok (some (a, b)) ↔
      low.number = .ok (some a) ∧ high.number = .ok (some b) := by
  unfold bounds
  rw [hitems]
  dsimp only
  rcases low.number with e | _ | x <;> rcases high.number with e | _ | y <;>
    simp [pure, Except.pure, bind, Except.bind]

/-- **A comparison with bounds** holds exactly if the value and the two bounds have ranks, and the
value is inside or outside of the bounds, as it asks for. -/
theorem compareBounds_iff (hitems : comparand.asList = [low, high]) (inside : Bool) :
    compareBounds inside value comparand = .ok true ↔
      ∃ i j k, value.HasRank i ∧ low.HasRank j ∧ high.HasRank k ∧
        (j ≤ i ∧ i ≤ k ↔ inside = true) := by
  have hjudge {x a b : Binary64} {i j k : Int} (hx : x.key? = some i) (ha : a.key? = some j)
      (hb : b.key? = some k) :
      ((a.atMost x && x.atMost b) == inside) = true ↔ (j ≤ i ∧ i ≤ k ↔ inside = true) := by
    rw [Binary64.atMost, Binary64.atMost, Binary64.related_of_keys ha hx,
      Binary64.related_of_keys hx hb, beq_iff_eq, Bool.eq_iff_iff, Bool.and_eq_true,
      decide_eq_true_iff, decide_eq_true_iff]
  constructor
  · intro haccepts
    obtain ⟨number, hx, haccepts⟩ := exists_of_bind_eq_ok haccepts
    obtain ⟨limits, hlimits, haccepts⟩ := exists_of_bind_eq_ok haccepts
    rcases number with _ | x
    · cases haccepts
    rcases limits with _ | ⟨a, b⟩
    · cases haccepts
    obtain ⟨ha, hb⟩ := (bounds_iff hitems).mp hlimits
    obtain ⟨i, hi⟩ := Value.exists_key?_of_number hx
    obtain ⟨j, hj⟩ := Value.exists_key?_of_number ha
    obtain ⟨k, hk⟩ := Value.exists_key?_of_number hb
    exact ⟨i, j, k, ⟨x, hx, hi⟩, ⟨a, ha, hj⟩, ⟨b, hb, hk⟩,
      (hjudge hi hj hk).mp (Except.ok.inj haccepts)⟩
  · rintro ⟨i, j, k, ⟨x, hx, hi⟩, ⟨a, ha, hj⟩, ⟨b, hb, hk⟩, hinside⟩
    unfold compareBounds
    rw [hx, ok_bind, (bounds_iff hitems).mpr ⟨ha, hb⟩, ok_bind]
    exact congrArg Except.ok ((hjudge hi hj hk).mpr hinside)

theorem compareBounds_of_ranks (hitems : comparand.asList = [low, high]) (inside : Bool)
    {i j k : Int} (hi : value.HasRank i) (hj : low.HasRank j) (hk : high.HasRank k) :
    compareBounds inside value comparand = .ok true ↔ (j ≤ i ∧ i ≤ k ↔ inside = true) := by
  rw [compareBounds_iff hitems]
  constructor
  · rintro ⟨i', j', k', hi', hj', hk', h⟩
    rwa [hi.unique hi', hj.unique hj', hk.unique hk']
  · exact fun h => ⟨i, j, k, hi, hj, hk, h⟩

theorem denotesNumber_of_comparison {o : Operator} {slot : Slot} (ho : o ∈ comparisons)
    (h : o.Accepts value comparand slot) : value.DenotesNumber := by
  have hcompare {relation : Binary64 → Binary64 → Bool}
      (h : compare relation value comparand = .ok true) : value.DenotesNumber := by
    obtain ⟨left, hx, h⟩ := exists_of_bind_eq_ok h
    obtain ⟨right, -, h⟩ := exists_of_bind_eq_ok h
    cases left with
    | none => cases h
    | some x => exact ⟨x, hx⟩
  have hbounds {inside : Bool} (h : compareBounds inside value comparand = .ok true) :
      value.DenotesNumber := by
    obtain ⟨number, hx, h⟩ := exists_of_bind_eq_ok h
    obtain ⟨limits, -, h⟩ := exists_of_bind_eq_ok h
    cases number with
    | none => cases h
    | some x => exact ⟨x, hx⟩
  cases o with
  | greater | greaterOrEqual | less | lessOrEqual => exact hcompare h
  | between | notBetween => exact hbounds h
  | _ => exact absurd ho (by decide)

theorem exists_holds_of_read {o : Operator} {slot : Slot} (ho : o.ReadsNumbers slot.kind)
    (hread : ∀ v ∈ o.operands value comparand, ∃ x, v.number = .ok x) :
    ∃ b, o.holds value comparand slot = .ok b := by
  rw [holds_eq_judge ho]
  exact exists_ok_map_iff.mpr (exists_ok_mapM_iff.mpr hread)

theorem eq_false_of_not_accepts {o : Operator} {slot : Slot}
    (h : ∃ b, o.holds value comparand slot = .ok b) (hnot : ¬ o.Accepts value comparand slot) :
    o.holds value comparand slot = .ok false := by
  obtain ⟨b, hb⟩ := h
  cases b with
  | true => exact absurd hb hnot
  | false => exact hb

end

/-! ### How the operators go together -/

/-- How the comparisons with one number go together. -/
structure ConsistentPairings (value comparand : Value) (slot : Slot) : Prop where
  decided : ∀ o ∈ pairings, ∃ b, o.holds value comparand slot = .ok b
  /-- Without two numbers none of them holds. -/
  notNumbers : ¬ (value.DenotesNumber ∧ comparand.DenotesNumber) →
    ∀ o ∈ pairings, o.holds value comparand slot = .ok false
  /-- Two numbers stand in exactly one of three relations. -/
  oneOfThree : value.DenotesNumber → comparand.DenotesNumber →
    ∃! o, o ∈ [less, equals, greater] ∧ o.Accepts value comparand slot
  greaterOrEqual_iff : greaterOrEqual.Accepts value comparand slot ↔
    greater.Accepts value comparand slot ∨ equals.Accepts value comparand slot
  lessOrEqual_iff : lessOrEqual.Accepts value comparand slot ↔
    less.Accepts value comparand slot ∨ equals.Accepts value comparand slot

/-- How the comparisons with two bounds go together, and with those of the single bounds. -/
structure ConsistentBounds (value comparand low high : Value) (slot : Slot) : Prop where
  between_iff : between.Accepts value comparand slot ↔
    greaterOrEqual.Accepts value low slot ∧ lessOrEqual.Accepts value high slot
  notBetween_iff : notBetween.Accepts value comparand slot ↔
    (value.DenotesNumber ∧ low.DenotesNumber ∧ high.DenotesNumber) ∧
      (less.Accepts value low slot ∨ greater.Accepts value high slot)
  notBoth : ¬ (between.Accepts value comparand slot ∧ notBetween.Accepts value comparand slot)
  one_iff : Xor (between.Accepts value comparand slot) (notBetween.Accepts value comparand slot) ↔
    value.DenotesNumber ∧ low.DenotesNumber ∧ high.DenotesNumber
  /-- Nothing is between bounds of which the lower exceeds the upper. -/
  inverted : greater.Accepts low high slot → ¬ between.Accepts value comparand slot
  decided : (∀ w ∈ [value, low, high], ∃ x, w.number = .ok x) →
    ∀ o ∈ [between, notBetween], ∃ b, o.holds value comparand slot = .ok b

section
variable {value comparand low high : Value} {slot : Slot}

theorem operands_subset {o : Operator} (ho : o ∈ pairings) :
    o.operands value comparand ⊆ [value, comparand] := by
  cases o with
  | equals =>
    unfold operands
    dsimp only
    split_ifs
    · exact List.nil_subset _
    · exact List.Subset.refl _
  | greater | greaterOrEqual | less | lessOrEqual => exact List.Subset.refl _
  | _ => exact absurd ho (by decide)

theorem readsNumbers_of_pairing {o : Operator} (ho : o ∈ pairings) (hkind : slot.kind = .number) :
    o.ReadsNumbers slot.kind := by
  cases o with
  | equals => exact .inr ⟨by decide, hkind⟩
  | greater | greaterOrEqual | less | lessOrEqual => exact .inl (by decide)
  | _ => exact absurd ho (by decide)

/-- A comparison that asks for one of two relations holds if and only if one of the comparisons that
ask for these does. -/
theorem accepts_or_iff {o p q : Operator} (ho : o ∈ pairings) (hp : p ∈ pairings)
    (hq : q ∈ pairings) (hkind : slot.kind = .number)
    (h : ∀ j k, o.Relates j k ↔ p.Relates j k ∨ q.Relates j k) :
    o.Accepts value comparand slot ↔
      p.Accepts value comparand slot ∨ q.Accepts value comparand slot := by
  rw [accepts_iff o ho fun _ => hkind, accepts_iff p hp fun _ => hkind,
    accepts_iff q hq fun _ => hkind]
  simp only [h, and_or_left, exists_or]

theorem existsUnique_relates (j k : Int) :
    ∃! o, o ∈ [less, equals, greater] ∧ o.Relates j k := by
  have hexclusive : ∀ o ∈ [less, equals, greater], ∀ p ∈ [less, equals, greater],
      o.Relates j k → p.Relates j k → o = p := by
    simp only [List.mem_cons, List.not_mem_nil, or_false, Relates, forall_eq_or_imp, forall_eq,
      implies_true, reduceCtorEq, imp_false, not_lt, true_and, and_true]
    omega
  rcases Int.lt_trichotomy j k with h | h | h
  · exact ⟨less, ⟨by decide, h⟩, fun o ho => hexclusive o ho.1 less (by decide) ho.2 h⟩
  · exact ⟨equals, ⟨by decide, h⟩, fun o ho => hexclusive o ho.1 equals (by decide) ho.2 h⟩
  · exact ⟨greater, ⟨by decide, h⟩, fun o ho => hexclusive o ho.1 greater (by decide) ho.2 h⟩

theorem consistentPairings (hkind : slot.kind = .number) (hv : ∃ x, value.number = .ok x)
    (hc : ∃ x, comparand.number = .ok x) : ConsistentPairings value comparand slot := by
  have hdecided : ∀ o ∈ pairings, ∃ b, o.holds value comparand slot = .ok b := by
    intro o ho
    refine exists_holds_of_read (readsNumbers_of_pairing ho hkind) fun v hmem => ?_
    rcases List.mem_pair.mp (operands_subset ho hmem) with rfl | rfl
    · exact hv
    · exact hc
  refine ⟨hdecided, fun hnot o ho => ?_, fun hnv hnc => ?_, ?_, ?_⟩
  · refine eq_false_of_not_accepts (hdecided o ho) fun hholds => hnot ?_
    obtain ⟨j, k, hj, hk, -⟩ := (accepts_iff o ho fun _ => hkind).mp hholds
    exact ⟨hj.denotesNumber, hk.denotesNumber⟩
  · obtain ⟨j, hj⟩ := Value.denotesNumber_iff.mp hnv
    obtain ⟨k, hk⟩ := Value.denotesNumber_iff.mp hnc
    have hmem : ∀ o ∈ [less, equals, greater], o ∈ pairings := by decide
    refine (existsUnique_congr fun o => and_congr_right fun ho => ?_).mpr (existsUnique_relates j k)
    exact accepts_of_ranks o (hmem o ho) (fun _ => hkind) hj hk
  · refine accepts_or_iff (by decide) (by decide) (by decide) hkind fun j k => ?_
    show k ≤ j ↔ k < j ∨ j = k
    omega
  · refine accepts_or_iff (by decide) (by decide) (by decide) hkind fun j k => ?_
    show j ≤ k ↔ j < k ∨ j = k
    omega

theorem consistentBounds (value : Value) (slot : Slot) (hitems : comparand.asList = [low, high]) :
    ConsistentBounds value comparand low high slot := by
  have hdecided (hread : ∀ w ∈ [value, low, high], ∃ x, w.number = .ok x) :
      ∀ o ∈ [between, notBetween], ∃ b, o.holds value comparand slot = .ok b := by
    rw [← boundedOperands_of_two value comparand hitems] at hread
    intro o ho
    rcases List.mem_pair.mp ho with rfl | rfl
    · exact exists_holds_of_read (.inl (by decide)) hread
    · exact exists_holds_of_read (.inl (by decide)) hread
  by_cases hnumbers : value.DenotesNumber ∧ low.DenotesNumber ∧ high.DenotesNumber
  · -- all three have ranks, so that the operators are relations of integers
    have ⟨hv, hl, hh⟩ := hnumbers
    obtain ⟨i, hi⟩ := Value.denotesNumber_iff.mp hv
    obtain ⟨j, hj⟩ := Value.denotesNumber_iff.mp hl
    obtain ⟨k, hk⟩ := Value.denotesNumber_iff.mp hh
    have hbetween : between.Accepts value comparand slot ↔ j ≤ i ∧ i ≤ k :=
      (compareBounds_of_ranks hitems true hi hj hk).trans (by simp)
    have houtside : notBetween.Accepts value comparand slot ↔ ¬ (j ≤ i ∧ i ≤ k) :=
      (compareBounds_of_ranks hitems false hi hj hk).trans (by simp)
    have hfrom : greaterOrEqual.Accepts value low slot ↔ j ≤ i :=
      accepts_of_ranks greaterOrEqual (by decide) nofun hi hj
    have hto : lessOrEqual.Accepts value high slot ↔ i ≤ k :=
      accepts_of_ranks lessOrEqual (by decide) nofun hi hk
    have hbelow : less.Accepts value low slot ↔ i < j :=
      accepts_of_ranks less (by decide) nofun hi hj
    have habove : greater.Accepts value high slot ↔ k < i :=
      accepts_of_ranks greater (by decide) nofun hi hk
    have hinverted : greater.Accepts low high slot ↔ k < j :=
      accepts_of_ranks greater (by decide) nofun hj hk
    refine ⟨?_, ?_, ?_, ?_, ?_, hdecided⟩
    · rw [hbetween, hfrom, hto]
    · rw [houtside, hbelow, habove, and_iff_right hnumbers]
      omega
    · rw [hbetween, houtside]
      exact and_not_self
    · rw [hbetween, houtside]
      exact iff_of_true (xor_not_right.mpr Iff.rfl) hnumbers
    · rw [hbetween, hinverted]
      omega
  · -- a value without rank is in no relation
    have hnone {inside : Bool} : ¬ compareBounds inside value comparand = .ok true := by
      rw [compareBounds_iff hitems inside]
      rintro ⟨i, j, k, hi, hj, hk, -⟩
      exact hnumbers ⟨hi.denotesNumber, hj.denotesNumber, hk.denotesNumber⟩
    refine ⟨iff_of_false hnone ?_, iff_of_false hnone fun h => hnumbers h.1, fun h => hnone h.1,
      iff_of_false ?_ hnumbers, fun _ => hnone, hdecided⟩
    · rintro ⟨hfrom, hto⟩
      obtain ⟨i, j, hi, hj, -⟩ := (accepts_iff greaterOrEqual (by decide) nofun).mp hfrom
      obtain ⟨-, k, -, hk, -⟩ := (accepts_iff lessOrEqual (by decide) nofun).mp hto
      exact hnumbers ⟨hi.denotesNumber, hj.denotesNumber, hk.denotesNumber⟩
    · rintro (⟨h, -⟩ | ⟨h, -⟩)
      · exact hnone h
      · exact hnone h

theorem holds_of_no_bounds {o : Operator} (ho : o ∈ [between, notBetween])
    (hread : ∀ w ∈ boundedOperands value comparand, ∃ x, w.number = .ok x)
    (h : ¬ ∃ low high, comparand.asList = [low, high] ∧ low.DenotesNumber ∧ high.DenotesNumber) :
    o.holds value comparand slot = .ok false := by
  have hsmall : ∀ w ∈ boundedOperands value comparand, ¬ w.TooLarge := by
    intro w hw hlarge
    obtain ⟨x, hx⟩ := hread w hw
    rcases w.number_cases with ⟨-, herror⟩ | ⟨hsmall, -⟩
    · rw [hx] at herror
      cases herror
    · exact hsmall hlarge
  have hverdict {p : Operator} (hp : p ∈ comparisons) :
      p.NumericVerdict value comparand (orFault (p.holds value comparand slot)) :=
    numericVerdict_holds (.inl hp) value comparand
  refine orFault_eq_ok_iff.mp ?_
  rcases List.mem_pair.mp ho with rfl | rfl
  · exact (hverdict (by decide)).notNumeric hsmall fun hnumeric => h hnumeric.2
  · exact (hverdict (by decide)).notNumeric hsmall fun hnumeric => h hnumeric.2

/-- **The operators that compare numbers are consistent**: those that compare with one number, those
that compare with two bounds, and each of these with those; and what lists no two numbers bounds
nothing. -/
theorem comparisons_consistent (value comparand : Value) (slot : Slot) :
    (slot.kind = .number → (∃ x, value.number = .ok x) → (∃ x, comparand.number = .ok x) →
        ConsistentPairings value comparand slot) ∧
      (∀ low high, comparand.asList = [low, high] →
        ConsistentBounds value comparand low high slot) ∧
      ((∀ w ∈ boundedOperands value comparand, ∃ x, w.number = .ok x) →
        (¬ ∃ low high, comparand.asList = [low, high] ∧ low.DenotesNumber ∧ high.DenotesNumber) →
          ∀ o ∈ [between, notBetween], o.holds value comparand slot = .ok false) :=
  ⟨consistentPairings, fun _ _ => consistentBounds value slot,
    fun hread h _ ho => holds_of_no_bounds ho hread h⟩

/-- A text that denotes zero with a sign is equal to zero, nothing is between bounds of which the
lower exceeds the upper, and one number is no pair of bounds. -/
theorem comparisons_consistent_of_signed_zero :
    let zero : Value := .text "-0.0"
    let crossed : Value := .list [.int 1, .int (-1)]
    let slot := Condition.numberSlot
    (∃ x, zero.number = .ok x) ∧ (∃ x, (Value.int 0).number = .ok x) ∧
      ConsistentPairings zero (.int 0) slot ∧ equals.Accepts zero (.int 0) slot ∧
      greater.Accepts (.int 1) (.int (-1)) slot ∧ ¬ between.Accepts zero crossed slot ∧
      between.holds zero (.int 0) slot = .ok false := by
  intro zero crossed slot
  have hzero : ∃ x, zero.number = .ok x := ⟨_, rfl⟩
  have hint : (Value.int 0).number = .ok (some (Binary64.zero false)) := by decide +kernel
  have hequal : equals.Accepts zero (.int 0) slot := by
    show equals.holds _ _ _ = _
    decide +kernel
  have hcrossed : greater.Accepts (.int 1) (.int (-1)) slot := by
    show greater.holds _ _ _ = _
    decide +kernel
  have hpairings := (comparisons_consistent zero (.int 0) slot).1 rfl hzero ⟨_, hint⟩
  have hbounds := (comparisons_consistent zero crossed slot).2.1 _ _ rfl
  have hnobounds := (comparisons_consistent zero (.int 0) slot).2.2
    (fun w hw => by rwa [List.mem_singleton.mp hw]) nofun
  exact ⟨hzero, ⟨_, hint⟩, hpairings, hequal, hcrossed, hbounds.inverted hcrossed,
    hnobounds between (by decide)⟩

end

end Operator

end SubmissionRouting
