import SubmissionRouting.Number.Binary64
import Mathlib.Order.Monotone.Basic
import Mathlib.Tactic.SplitIfs

/-! # Magnitudes of double precision numbers

The magnitudes of the ranks increase strictly (`units_strictMono`), so a number is known by its sign
and magnitude. In particular an integer is the value of one number only, apart from the two zeros
(`key?_eq_of_toInt?`).

To be alike is to have the same *exact value* (`alike_iff`): the integer that a number is, or else the
number itself. -/

namespace SubmissionRouting.Binary64

/-! ### Ranks and magnitudes -/

theorem pow_two_52 : Nat.pow 2 52 = 4503599627370496 := rfl

theorem units_of_lt {rank : Nat} (h : rank / Nat.pow 2 52 = 0) : units rank = rank := by
  have hlt : rank < Nat.pow 2 52 := by rw [pow_two_52] at h ⊢; omega
  unfold units significand scale
  rw [if_pos hlt, if_pos hlt]
  exact Nat.mul_one rank

theorem units_of_div_eq {rank q : Nat} (h : rank / Nat.pow 2 52 = q + 1) :
    units rank = (Nat.pow 2 52 + rank % Nat.pow 2 52) * Nat.pow 2 q := by
  have hge : ¬ rank < Nat.pow 2 52 := by rw [pow_two_52] at h ⊢; omega
  unfold units significand scale
  rw [if_neg hge, if_neg hge, h]
  rfl

/-- **Magnitudes increase strictly with the rank.** -/
theorem units_strictMono : StrictMono units := by
  refine strictMono_nat_of_lt_succ fun n => ?_
  have hn : n = n / Nat.pow 2 52 * Nat.pow 2 52 + n % Nat.pow 2 52 := (Nat.div_add_mod' n _).symm
  have hf : n % Nat.pow 2 52 < Nat.pow 2 52 := Nat.mod_lt n (by decide)
  rw [pow_two_52] at hn hf
  by_cases hlast : n % 4503599627370496 + 1 = 4503599627370496
  · -- the next rank is a power of two
    have hdiv : (n + 1) / Nat.pow 2 52 = n / Nat.pow 2 52 + 1 := by rw [pow_two_52]; omega
    have hmod : (n + 1) % Nat.pow 2 52 = 0 := by rw [pow_two_52]; omega
    rw [units_of_div_eq hdiv, hmod, Nat.add_zero]
    cases hq : n / Nat.pow 2 52 with
    | zero =>
      have hone : Nat.pow 2 0 = 1 := rfl
      rw [units_of_lt hq, pow_two_52, hone]
      rw [pow_two_52] at hq
      omega
    | succ q =>
      have hpos : 0 < Nat.pow 2 q := Nat.two_pow_pos q
      have hdouble : Nat.pow 2 (q + 1) = 2 * Nat.pow 2 q := Nat.mul_comm (Nat.pow 2 q) 2
      rw [units_of_div_eq hq, pow_two_52, hdouble, ← Nat.mul_assoc]
      exact Nat.mul_lt_mul_of_pos_right (by omega) hpos
  · have hdiv : (n + 1) / Nat.pow 2 52 = n / Nat.pow 2 52 := by rw [pow_two_52]; omega
    have hmod : (n + 1) % Nat.pow 2 52 = n % Nat.pow 2 52 + 1 := by rw [pow_two_52]; omega
    cases hq : n / Nat.pow 2 52 with
    | zero => rw [units_of_lt hq, units_of_lt (hdiv.trans hq)]; exact Nat.lt_succ_self n
    | succ q =>
      have hpos : 0 < Nat.pow 2 q := Nat.two_pow_pos q
      rw [units_of_div_eq hq, units_of_div_eq (hdiv.trans hq), hmod]
      exact Nat.mul_lt_mul_of_pos_right (by omega) hpos

theorem units_injective : Function.Injective units := units_strictMono.injective

/-! ### Integers -/

theorem unit_pos : 0 < unit := by decide +kernel

theorem toInt?_ranked_eq_some {negative : Bool} {rank : Fin (infinityRank + 1)} {n : Int}
    (h : (ranked negative rank).toInt? = some n) :
    units rank = n.natAbs * unit ∧ (0 < n.natAbs → negative = decide (n < 0)) := by
  simp only [toInt?] at h
  split_ifs at h with hrank
  have hn : n = signedUnits negative rank / unit := (Option.some.inj h).symm
  obtain ⟨k, hk⟩ : ∃ k, units rank = k * unit :=
    ⟨_, (Nat.div_mul_cancel (Nat.dvd_of_mod_eq_zero hrank.2)).symm⟩
  have hunit : (unit : Int) ≠ 0 := by have := unit_pos; omega
  unfold signedUnits at hn
  rw [hk, Int.natCast_mul] at hn
  cases negative with
  | false =>
    have hq : n = k := hn.trans (Int.mul_ediv_cancel _ hunit)
    refine ⟨by rw [hk, hq, Int.natAbs_natCast], fun _ => ?_⟩
    exact (decide_eq_false (by omega)).symm
  | true =>
    have hq : n = -k := by
      rw [hn, if_pos rfl, ← Int.neg_mul]
      exact Int.mul_ediv_cancel _ hunit
    refine ⟨by rw [hk, hq, Int.natAbs_neg, Int.natAbs_natCast], fun hpos => ?_⟩
    exact (decide_eq_true (by omega)).symm

/-- **Two numbers that are the same integer have the same signed rank.** -/
theorem key?_eq_of_toInt? {x y : Binary64} {n : Int} (hx : x.toInt? = some n)
    (hy : y.toInt? = some n) : x.key? = y.key? := by
  cases x with
  | nan => cases hx
  | ranked s a =>
    cases y with
    | nan => cases hy
    | ranked t b =>
      obtain ⟨ha, hs⟩ := toInt?_ranked_eq_some hx
      obtain ⟨hb, ht⟩ := toInt?_ranked_eq_some hy
      have hrank : a = b := Fin.ext (units_injective (ha.trans hb.symm))
      subst hrank
      by_cases hzero : n.natAbs = 0
      · -- both are a zero
        have ha0 : a.val = 0 := by
          have h0 : units a = units 0 := by rw [ha, hzero, Nat.zero_mul]; rfl
          exact units_injective h0
        simp [key?, ha0]
      · rw [hs (Nat.pos_of_ne_zero hzero), ht (Nat.pos_of_ne_zero hzero)]

theorem rank_eq_of_key? {s t : Bool} {a b : Fin (infinityRank + 1)}
    (h : (ranked s a).key? = (ranked t b).key?) : a = b ∧ (a.val ≠ 0 → s = t) := by
  have hkey : (if s then -(a.val : Int) else a.val) = if t then -(b.val : Int) else b.val :=
    Option.some.inj h
  have hval : a.val = b.val := by split_ifs at hkey <;> omega
  refine ⟨Fin.ext hval, fun hpos => ?_⟩
  cases s with
  | false =>
    cases t with
    | false => rfl
    | true =>
      have hopposite : (a.val : Int) = -(b.val : Int) := hkey
      omega
  | true =>
    cases t with
    | false =>
      have hopposite : -(a.val : Int) = (b.val : Int) := hkey
      omega
    | true => rfl

theorem toInt?_of_rank_eq_zero {negative : Bool} {rank : Fin (infinityRank + 1)}
    (h : rank.val = 0) : (ranked negative rank).toInt? = some 0 := by
  have hunits : units rank = 0 := by rw [h]; rfl
  have hsigned : signedUnits negative rank = 0 := by
    unfold signedUnits
    rw [hunits]
    cases negative <;> rfl
  have hfinite : rank.val < infinityRank ∧ units rank % unit = 0 := by
    rw [hunits, h]
    exact ⟨by decide, Nat.zero_mod unit⟩
  simp only [toInt?]
  rw [if_pos hfinite, hsigned, Int.zero_ediv]

theorem toInt?_eq_of_key? {x y : Binary64} (hx : x.isNaN = false) (h : x.key? = y.key?) :
    x.toInt? = y.toInt? := by
  cases x with
  | nan => cases hx
  | ranked s a =>
    cases y with
    | nan => cases h
    | ranked t b =>
      obtain ⟨hrank, hsign⟩ := rank_eq_of_key? h
      subst hrank
      by_cases hzero : a.val = 0
      · rw [toInt?_of_rank_eq_zero hzero, toInt?_of_rank_eq_zero hzero]
      · rw [hsign hzero]

/-! ### Exact values -/

/-- The exact value of a number: the integer that it is, or else the number itself. -/
def exactValue (x : Binary64) : Int ⊕ Binary64 :=
  match x.toInt? with
  | some n => .inl n
  | none => .inr x

theorem same_ranked_iff {x y : Binary64} (hx : x.isNaN = false) :
    same x y = true ↔ x.key? = y.key? := by
  cases x with
  | nan => cases hx
  | ranked s a => cases y <;> simp [same, related, key?]

theorem rank_ne_zero_of_toInt? {negative : Bool} {rank : Fin (infinityRank + 1)}
    (h : (ranked negative rank).toInt? = none) : rank.val ≠ 0 := by
  intro hzero
  rw [toInt?_of_rank_eq_zero hzero] at h
  cases h

theorem eq_of_key? {x y : Binary64} (hx : x.isNaN = false) (hint : x.toInt? = none)
    (h : x.key? = y.key?) : x = y := by
  cases x with
  | nan => cases hx
  | ranked s a =>
    cases y with
    | nan => cases h
    | ranked t b =>
      obtain ⟨hrank, hsign⟩ := rank_eq_of_key? h
      rw [hrank, hsign (rank_ne_zero_of_toInt? hint)]

/-- **Two numbers are alike if and only if their exact values are the same.** -/
theorem alike_iff {x y : Binary64} : alike x y = true ↔ x.exactValue = y.exactValue := by
  cases x with
  | nan m =>
    cases y with
    | nan n => simp [alike, exactValue, toInt?]
    | ranked t b =>
      constructor
      · intro h; cases h
      · intro h
        unfold exactValue at h
        cases hy : (ranked t b).toInt? <;> rw [hy] at h <;> cases h
  | ranked s a =>
    have hreal : (ranked s a).isNaN = false := rfl
    show same (ranked s a) y = true ↔ _
    rw [same_ranked_iff hreal]
    unfold exactValue
    constructor
    · intro h
      rw [← toInt?_eq_of_key? hreal h]
      cases hint : (ranked s a).toInt? with
      | some n => rfl
      | none => rw [eq_of_key? hreal hint h]
    · intro h
      cases hx : (ranked s a).toInt? with
      | some n =>
        cases hy : y.toInt? with
        | some k =>
          rw [hx, hy] at h
          exact key?_eq_of_toInt? hx (hy.trans (congrArg some (Sum.inl.inj h).symm))
        | none => rw [hx, hy] at h; cases h
      | none =>
        cases hy : y.toInt? with
        | some k => rw [hx, hy] at h; cases h
        | none => rw [hx, hy] at h; rw [Sum.inr.inj h]

end SubmissionRouting.Binary64
