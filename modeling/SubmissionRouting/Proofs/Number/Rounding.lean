import SubmissionRouting.Proofs.Number.Magnitude
import SubmissionRouting.Text.Digit

/-! # Rounding of integers

A magnitude that is that of a rank is rounded to this rank (`nearest_of_units`), since it lies at
the start of the stretch of magnitudes of which the rank is the greatest below (`floorRank_units`).
So the number next to an integer that a number is has the same signed rank (`ofInt?_of_toInt?`).

An integer that is next to a finite number is less than a power of two (`natAbs_lt_of_ofInt?`), and
has far fewer digits than a whole number may have. -/

namespace SubmissionRouting.Binary64

/-! ### Ranks of magnitudes -/

theorem bitLength_eq {n k : Nat} (hlow : Nat.pow 2 k ≤ n) (hhigh : n < Nat.pow 2 (k + 1)) :
    bitLength n = k + 1 := by
  have hpos : 0 < Nat.pow 2 k := Nat.two_pow_pos k
  have hne : n ≠ 0 := by omega
  have hlog : n.log2 = k := (Nat.log2_eq_iff hne).mpr ⟨hlow, hhigh⟩
  rw [bitLength, if_neg hne, hlog]

theorem lt_pow_bitLength (n : Nat) : n < Nat.pow 2 (bitLength n) := by
  unfold bitLength
  split_ifs with h
  · rw [h]
    exact Nat.one_pos
  · exact Nat.lt_log2_self

/-- **A rank is the greatest whose magnitude is at most its own.** -/
theorem floorRank_units (rank : Nat) : floorRank (units rank) = rank := by
  have hrank : rank = Nat.pow 2 52 * (rank / Nat.pow 2 52) + rank % Nat.pow 2 52 :=
    (Nat.div_add_mod rank _).symm
  have hrest : rank % Nat.pow 2 52 < Nat.pow 2 52 := Nat.mod_lt rank (by decide)
  cases hq : rank / Nat.pow 2 52 with
  | zero =>
    -- fewer than 53 bits: none is dropped
    have hlt : rank < Nat.pow 2 52 := by rw [hq] at hrank; omega
    have hbits : bitLength rank ≤ 53 := by
      unfold bitLength
      split_ifs with h
      · omega
      · have hlog : rank.log2 < 52 := (Nat.log2_lt h).mpr hlt
        omega
    have hnone : bitLength rank - 53 = 0 := by omega
    have hone : Nat.pow 2 0 = 1 := rfl
    rw [units_of_lt hq, floorRank, hnone, hone, Nat.mul_zero, Nat.zero_add, Nat.div_one]
  | succ q =>
    have hpos : 0 < Nat.pow 2 q := Nat.two_pow_pos q
    have hlow : Nat.pow 2 (52 + q) ≤ units rank := by
      rw [units_of_div_eq hq, show Nat.pow 2 (52 + q) = Nat.pow 2 52 * Nat.pow 2 q from
        Nat.pow_add 2 52 q]
      exact Nat.mul_le_mul_right _ (Nat.le_add_right _ _)
    have hhigh : units rank < Nat.pow 2 (52 + q + 1) := by
      have hsplit : Nat.pow 2 (52 + q + 1) = Nat.pow 2 53 * Nat.pow 2 q := by
        rw [show 52 + q + 1 = 53 + q by omega]
        exact Nat.pow_add 2 53 q
      rw [units_of_div_eq hq, hsplit]
      refine Nat.mul_lt_mul_of_pos_right ?_ hpos
      rw [show Nat.pow 2 53 = Nat.pow 2 52 + Nat.pow 2 52 from rfl]
      omega
    have hdropped : bitLength (units rank) - 53 = q := by
      rw [bitLength_eq hlow hhigh]
      omega
    rw [floorRank, hdropped, units_of_div_eq hq, Nat.mul_div_cancel _ hpos]
    rw [hq, Nat.mul_succ] at hrank
    omega

theorem nearest_of_units {n rank : Nat} (h : unit * n = units rank) (hrank : rank ≤ infinityRank) :
    (nearest n 1).val = rank := by
  have hlow : floorRank (unit * n / 1) = rank := by rw [Nat.div_one, h, floorRank_units]
  have habove : 2 * (unit * n - units rank * 1) = 0 := by rw [h, Nat.mul_one, Nat.sub_self]
  have hgap : 0 < (units (rank + 1) - units rank) * 1 := by
    rw [Nat.mul_one]
    exact Nat.sub_pos_of_lt (units_strictMono (Nat.lt_add_one rank))
  simp only [nearest, hlow, habove]
  rw [if_pos (Or.inl hgap)]
  exact Nat.min_eq_left hrank

/-! ### Integers that numbers are -/

/-- **The number next to an integer that a number is has the same signed rank.** -/
theorem ofInt?_of_toInt? {x : Binary64} {n : Int} (h : x.toInt? = some n) :
    ∃ y, ofInt? n = some y ∧ y.key? = x.key? := by
  cases x with
  | nan => cases h
  | ranked negative rank =>
    obtain ⟨hunits, hsign⟩ := toInt?_ranked_eq_some h
    have hfinite : rank.val < infinityRank := by
      simp only [toInt?] at h
      split_ifs at h with hrank
      exact hrank.1
    have hnearest : nearest n.natAbs 1 = rank :=
      Fin.ext (nearest_of_units ((Nat.mul_comm _ _).trans hunits.symm) hfinite.le)
    refine ⟨ranked (decide (n < 0)) rank, ?_, ?_⟩
    · simp only [ofInt?, hnearest]
      rw [if_neg hfinite.ne]
    · by_cases hzero : n.natAbs = 0
      · have hrank : rank.val = 0 := by
          refine units_injective ?_
          rw [hunits, hzero, Nat.zero_mul]
          rfl
        simp [key?, hrank]
      · rw [hsign (Nat.pos_of_ne_zero hzero)]

/-! ### The size of integers next to numbers -/

theorem pow_two_mono {a b : Nat} (h : a ≤ b) : Nat.pow 2 a ≤ Nat.pow 2 b :=
  Nat.pow_le_pow_right (by decide) h

theorem bitLength_le_of_floorRank_lt {n : Nat} (h : floorRank n < infinityRank) :
    bitLength n ≤ 2100 := by
  have hdropped : Nat.pow 2 52 * (bitLength n - 53) < Nat.pow 2 52 * 2047 :=
    (Nat.le_add_right _ _).trans_lt h
  have hlt : bitLength n - 53 < 2047 := Nat.lt_of_mul_lt_mul_left hdropped
  omega

theorem lt_pow_of_bitLength_le {n a b : Nat} (h : bitLength (Nat.pow 2 a * n) ≤ a + b) :
    n < Nat.pow 2 b := by
  have hlt : Nat.pow 2 a * n < Nat.pow 2 (a + b) := (lt_pow_bitLength _).trans_le (pow_two_mono h)
  rw [show Nat.pow 2 (a + b) = Nat.pow 2 a * Nat.pow 2 b from Nat.pow_add 2 a b] at hlt
  exact Nat.lt_of_mul_lt_mul_left hlt

theorem natAbs_lt_of_ofInt? {n : Int} {y : Binary64} (h : ofInt? n = some y) {k : Nat}
    (hk : 1026 ≤ k) : n.natAbs < Nat.pow 2 k := by
  have hfinite : floorRank (unit * n.natAbs) < infinityRank := by
    by_contra hge
    have hlow : infinityRank ≤ floorRank (unit * n.natAbs / 1) := by
      rw [Nat.div_one]
      exact Nat.le_of_not_lt hge
    have hrank : (nearest n.natAbs 1).val = infinityRank := by
      simp only [nearest]
      refine Nat.min_eq_right ?_
      split_ifs
      · exact hlow
      · exact hlow.trans (Nat.le_succ _)
    simp only [ofInt?] at h
    rw [if_pos hrank] at h
    cases h
  have hbits : bitLength (unit * n.natAbs) ≤ 1074 + k :=
    (bitLength_le_of_floorRank_lt hfinite).trans (Nat.add_le_add_left hk 1074)
  unfold unit at hbits
  exact lt_pow_of_bitLength_le hbits

theorem length_toDigits_le {n limit : Nat} (hlimit : 0 < limit) (h : n < Nat.pow 2 limit) :
    (Nat.toDigits 10 n).length ≤ limit := by
  have hten : Nat.pow 2 limit ≤ Nat.pow 10 limit := Nat.pow_le_pow_left (by decide) limit
  exact (Nat.length_toDigits_le_iff (by decide) hlimit).mpr (h.trans_le hten)

theorem length_toDigits_of_ofInt? {n : Int} {y : Binary64} (h : ofInt? n = some y) :
    (Nat.toDigits 10 n.natAbs).length ≤ Text.digitLimit :=
  length_toDigits_le (by decide) (natAbs_lt_of_ofInt? h (by decide))

end SubmissionRouting.Binary64
