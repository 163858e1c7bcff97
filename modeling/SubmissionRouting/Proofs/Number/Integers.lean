import SubmissionRouting.Proofs.Number.Rounding

/-! # Integers among the double precision numbers

Around a magnitude stand two ranks: that of the magnitude without its bits below the leading 53, and
the next one (`units_floorRank`, `units_floorRank_succ`). If the magnitude is an integer, then both are
integers too, or the first one is the magnitude itself. So an integer is rounded to an integer
(`exists_toInt?_nearest`), or to infinity from `roundingLimit` on (`nearest_eq_infinityRank_iff`).

The integers that numbers can be are those that *fit*: they are below the limit, and have at most 53
bits with zeros behind them (`fits_iff`). -/

namespace SubmissionRouting.Binary64

/-- The least magnitude of an integer that is rounded to infinity. -/
def roundingLimit : Nat := Nat.pow 2 1024 - Nat.pow 2 970

/-- The magnitude of an integer is below the limit, and has at most 53 bits with zeros behind them. -/
def Fits (k : Int) : Prop :=
  k.natAbs < roundingLimit ∧ ∃ a e, a < Nat.pow 2 53 ∧ k.natAbs = a * Nat.pow 2 e

/-! ### The ranks around a magnitude -/

theorem pow_two_pos (k : Nat) : 0 < Nat.pow 2 k := Nat.two_pow_pos k

theorem pow_two_add (a b : Nat) : Nat.pow 2 (a + b) = Nat.pow 2 a * Nat.pow 2 b := Nat.pow_add 2 a b

theorem pow_two_dvd {a b : Nat} (h : a ≤ b) : Nat.pow 2 a ∣ Nat.pow 2 b := Nat.pow_dvd_pow 2 h

theorem units_scaled {d q : Nat} (hlow : d = 0 ∨ Nat.pow 2 52 ≤ q) (hhigh : q ≤ Nat.pow 2 53) :
    units (Nat.pow 2 52 * d + q) = q * Nat.pow 2 d := by
  have h53 : Nat.pow 2 53 = 9007199254740992 := rfl
  rw [pow_two_52] at hlow
  rw [h53] at hhigh
  by_cases hsmall : q < 4503599627370496
  · obtain rfl : d = 0 := by omega
    have hdiv : q / Nat.pow 2 52 = 0 := by rw [pow_two_52]; omega
    have hone : Nat.pow 2 0 = 1 := rfl
    rw [Nat.mul_zero, Nat.zero_add, units_of_lt hdiv, hone, Nat.mul_one]
  by_cases hlast : q = 9007199254740992
  · -- the next power of two
    have hdiv : (Nat.pow 2 52 * d + q) / Nat.pow 2 52 = d + 1 + 1 := by rw [pow_two_52]; omega
    have hmod : (Nat.pow 2 52 * d + q) % Nat.pow 2 52 = 0 := by rw [pow_two_52]; omega
    have hdouble : Nat.pow 2 (d + 1) = 2 * Nat.pow 2 d := Nat.mul_comm (Nat.pow 2 d) 2
    rw [units_of_div_eq hdiv, hmod, hdouble, ← Nat.mul_assoc, hlast]
  · have hdiv : (Nat.pow 2 52 * d + q) / Nat.pow 2 52 = d + 1 := by rw [pow_two_52]; omega
    have hsum : Nat.pow 2 52 + (Nat.pow 2 52 * d + q) % Nat.pow 2 52 = q := by
      rw [pow_two_52]; omega
    rw [units_of_div_eq hdiv, hsum]

/-- The number of bits of a magnitude below its leading 53. -/
def droppedBits (m : Nat) : Nat := bitLength m - 53

theorem floorRank_eq (m : Nat) :
    floorRank m = Nat.pow 2 52 * droppedBits m + m / Nat.pow 2 (droppedBits m) := rfl

theorem bitLength_le_iff {m k : Nat} : bitLength m ≤ k ↔ m < Nat.pow 2 k := by
  constructor
  · intro h
    exact (lt_pow_bitLength m).trans_le (pow_two_mono h)
  · intro h
    unfold bitLength
    split_ifs with hzero
    · exact Nat.zero_le k
    · exact (Nat.log2_lt hzero).mpr h

theorem leading_lt (m : Nat) : m / Nat.pow 2 (droppedBits m) < Nat.pow 2 53 := by
  have hbits : bitLength m ≤ 53 + droppedBits m := by unfold droppedBits; omega
  rw [Nat.div_lt_iff_lt_mul (pow_two_pos _), ← pow_two_add]
  exact bitLength_le_iff.mp hbits

/-- The leading bits of a magnitude are 53, unless none is dropped. -/
theorem droppedBits_eq_zero_or_leading_ge (m : Nat) :
    droppedBits m = 0 ∨ Nat.pow 2 52 ≤ m / Nat.pow 2 (droppedBits m) := by
  by_cases hnone : droppedBits m = 0
  · exact .inl hnone
  · right
    rw [Nat.le_div_iff_mul_le (pow_two_pos _), ← pow_two_add]
    refine Nat.le_of_not_lt fun hlt => hnone ?_
    have hbits : bitLength m ≤ 52 + droppedBits m := bitLength_le_iff.mpr hlt
    unfold droppedBits at hbits ⊢
    omega

/-- **Below a magnitude** stands the magnitude without the bits that are dropped. -/
theorem units_floorRank (m : Nat) :
    units (floorRank m) = m / Nat.pow 2 (droppedBits m) * Nat.pow 2 (droppedBits m) :=
  units_scaled (droppedBits_eq_zero_or_leading_ge m) (leading_lt m).le

/-- **Above a magnitude** stands the next multiple of the same power of two. -/
theorem units_floorRank_succ (m : Nat) :
    units (floorRank m + 1) =
      (m / Nat.pow 2 (droppedBits m) + 1) * Nat.pow 2 (droppedBits m) := by
  rw [floorRank_eq, Nat.add_assoc]
  refine units_scaled ?_ (leading_lt m)
  exact (droppedBits_eq_zero_or_leading_ge m).imp_right fun h => h.trans (Nat.le_succ _)

theorem units_floorRank_le (m : Nat) : units (floorRank m) ≤ m := by
  rw [units_floorRank]
  exact Nat.div_mul_le_self m _

theorem lt_units_floorRank_succ (m : Nat) : m < units (floorRank m + 1) := by
  rw [units_floorRank_succ]
  exact Nat.lt_mul_of_div_lt (Nat.lt_succ_self _) (pow_two_pos _)

theorem floorRank_lt_iff {m rank : Nat} : floorRank m < rank ↔ m < units rank := by
  constructor
  · intro h
    exact (lt_units_floorRank_succ m).trans_le (units_strictMono.monotone h)
  · intro h
    exact units_strictMono.lt_iff_lt.mp ((units_floorRank_le m).trans_lt h)

/-! ### Rounding to infinity -/

/-- The rank next to a magnitude as if ranks had no end. -/
def nearRank (m : Nat) : Nat :=
  let below := 2 * (m - units (floorRank m))
  let gap := units (floorRank m + 1) - units (floorRank m)
  if below < gap ∨ (below = gap ∧ floorRank m % 2 = 0) then floorRank m else floorRank m + 1

theorem val_nearest_one (n : Nat) :
    (nearest n 1).val = min (nearRank (unit * n)) infinityRank := by
  simp only [nearest, nearRank, Nat.div_one, Nat.mul_one]

theorem units_around_roundingLimit :
    units (infinityRank - 1) + units infinityRank = 2 * (unit * roundingLimit) := by
  decide +kernel

theorem infinityRank_le_nearRank_iff {m : Nat} :
    infinityRank ≤ nearRank m ↔ units (infinityRank - 1) + units infinityRank ≤ 2 * m := by
  have hless : units (infinityRank - 1) < units infinityRank := units_strictMono (by decide)
  unfold nearRank
  dsimp only
  rcases Nat.lt_trichotomy (floorRank m) (infinityRank - 1) with hlow | hlow | hlow
  · -- both ranks around the magnitude are finite
    have hm : m < units (infinityRank - 1) := floorRank_lt_iff.mp hlow
    refine iff_of_false ?_ (by omega)
    split_ifs <;> omega
  · -- the rank below is the greatest finite one, which is odd
    have hodd : (infinityRank - 1) % 2 ≠ 0 := by decide
    have hnext : infinityRank - 1 + 1 = infinityRank := by decide
    have hbelow := units_floorRank_le m
    rw [hlow] at hbelow ⊢
    rw [hnext]
    split_ifs with hcond
    · exact iff_of_false (by omega) (by omega)
    · exact iff_of_true le_rfl (by omega)
  · have hm : units infinityRank ≤ m := by
      rw [← Nat.not_lt, ← floorRank_lt_iff]
      omega
    refine iff_of_true ?_ (by omega)
    split_ifs <;> omega

/-- **An integer is rounded to infinity** if and only if its magnitude is at least the limit. -/
theorem nearest_eq_infinityRank_iff {n : Nat} :
    (nearest n 1).val = infinityRank ↔ roundingLimit ≤ n := by
  have hcap : min (nearRank (unit * n)) infinityRank = infinityRank ↔
      infinityRank ≤ nearRank (unit * n) := by omega
  rw [val_nearest_one, hcap, infinityRank_le_nearRank_iff, units_around_roundingLimit,
    Nat.mul_le_mul_left_iff (by decide), Nat.mul_le_mul_left_iff unit_pos]

/-- **An integer has no number next to it** if and only if its magnitude is at least the limit. -/
theorem ofInt?_eq_none_iff {k : Int} : ofInt? k = none ↔ roundingLimit ≤ k.natAbs := by
  rw [← nearest_eq_infinityRank_iff]
  simp only [ofInt?]
  split_ifs with h <;> simp [h]

/-! ### Rounding to integers -/

theorem unit_eq_pow : ∃ u, unit = Nat.pow 2 u := ⟨1074, by decide +kernel⟩

/-- Around an integer stand two integers, or it is the lower one itself. -/
theorem unit_dvd_units_around (n : Nat) :
    units (floorRank (unit * n)) = unit * n ∨
      unit ∣ units (floorRank (unit * n)) ∧ unit ∣ units (floorRank (unit * n) + 1) := by
  rw [units_floorRank, units_floorRank_succ]
  generalize droppedBits (unit * n) = d
  obtain ⟨u, hu⟩ := unit_eq_pow
  rcases Nat.le_total d u with hfew | hmany
  · -- only zeros are dropped
    left
    have hdvd : Nat.pow 2 d ∣ unit := by
      rw [hu]
      exact pow_two_dvd hfew
    exact Nat.div_mul_cancel (Nat.dvd_mul_right_of_dvd hdvd n)
  · right
    have hdvd : unit ∣ Nat.pow 2 d := by
      rw [hu]
      exact pow_two_dvd hmany
    exact ⟨Nat.dvd_mul_left_of_dvd hdvd _, Nat.dvd_mul_left_of_dvd hdvd _⟩

theorem unit_dvd_units_nearest {n : Nat} (h : (nearest n 1).val ≠ infinityRank) :
    unit ∣ units (nearest n 1).val := by
  have hrank : (nearest n 1).val = nearRank (unit * n) := by
    rw [val_nearest_one] at h ⊢
    omega
  rw [hrank]
  unfold nearRank
  dsimp only
  rcases unit_dvd_units_around n with hexact | ⟨hbelow, habove⟩
  · have hgap : units (floorRank (unit * n)) < units (floorRank (unit * n) + 1) :=
      units_strictMono (Nat.lt_succ_self _)
    rw [if_pos (.inl (by omega)), hexact]
    exact Nat.dvd_mul_right unit n
  · split_ifs
    · exact hbelow
    · exact habove

theorem exists_toInt?_of_dvd {rank : Fin (infinityRank + 1)} (hfinite : rank.val ≠ infinityRank)
    (hdvd : unit ∣ units rank) (negative : Bool) :
    ∃ n, (ranked negative rank).toInt? = some n := by
  have hlt : rank.val < infinityRank := by have := rank.isLt; omega
  exact ⟨_, if_pos ⟨hlt, Nat.mod_eq_zero_of_dvd hdvd⟩⟩

/-- **An integer is rounded to an integer**, unless it is rounded to infinity. -/
theorem exists_toInt?_nearest {n : Nat} (h : n < roundingLimit) (negative : Bool) :
    ∃ k, (ranked negative (nearest n 1)).toInt? = some k := by
  have hfinite : (nearest n 1).val ≠ infinityRank := by
    rw [Ne, nearest_eq_infinityRank_iff]
    omega
  exact exists_toInt?_of_dvd hfinite (unit_dvd_units_nearest hfinite) negative

/-! ### Integers that fit -/

/-- A number of at most 53 bits with zeros behind them is the magnitude of a rank. -/
theorem units_floorRank_of_shifted {a e : Nat} (ha : a < Nat.pow 2 53) :
    units (floorRank (a * Nat.pow 2 e)) = a * Nat.pow 2 e := by
  have hbits : bitLength (a * Nat.pow 2 e) ≤ 53 + e := by
    rw [bitLength_le_iff, pow_two_add]
    exact Nat.mul_lt_mul_of_pos_right ha (pow_two_pos e)
  have hdvd : Nat.pow 2 (droppedBits (a * Nat.pow 2 e)) ∣ a * Nat.pow 2 e := by
    have hfew : droppedBits (a * Nat.pow 2 e) ≤ e := by unfold droppedBits; omega
    exact Nat.dvd_trans (pow_two_dvd hfew) (Nat.dvd_mul_left _ a)
  rw [units_floorRank, Nat.div_mul_cancel hdvd]

theorem significand_lt (rank : Nat) : significand rank < Nat.pow 2 53 := by
  have hrest : rank % Nat.pow 2 52 < Nat.pow 2 52 := Nat.mod_lt rank (by decide)
  have h53 : Nat.pow 2 53 = 9007199254740992 := rfl
  unfold significand
  rw [pow_two_52] at hrest ⊢
  rw [h53]
  split_ifs <;> omega

/-- A number with zeros behind its leading bits has them too without some of the zeros. -/
theorem shifted_of_mul_pow {n a d e : Nat} (ha : a < Nat.pow 2 53)
    (h : n * Nat.pow 2 d = a * Nat.pow 2 e) : ∃ b j, b < Nat.pow 2 53 ∧ n = b * Nat.pow 2 j := by
  rcases Nat.le_total e d with hfew | hmany
  · have hpow : Nat.pow 2 d = Nat.pow 2 (d - e) * Nat.pow 2 e := by
      rw [← pow_two_add, Nat.sub_add_cancel hfew]
    rw [hpow, ← Nat.mul_assoc] at h
    have hn : n * Nat.pow 2 (d - e) = a := Nat.mul_right_cancel (pow_two_pos e) h
    have hle : n ≤ a := hn ▸ Nat.le_mul_of_pos_right n (pow_two_pos _)
    exact ⟨n, 0, hle.trans_lt ha, (Nat.mul_one n).symm⟩
  · have hpow : Nat.pow 2 e = Nat.pow 2 (e - d) * Nat.pow 2 d := by
      rw [← pow_two_add, Nat.sub_add_cancel hmany]
    rw [hpow, ← Nat.mul_assoc] at h
    exact ⟨a, e - d, ha, Nat.mul_right_cancel (pow_two_pos d) h⟩

theorem mul_unit_lt_of_lt_roundingLimit {n : Nat} (h : n < roundingLimit) :
    unit * n < units infinityRank := by
  have hhalf := units_around_roundingLimit
  have hless : units (infinityRank - 1) < units infinityRank := units_strictMono (by decide)
  have hlt : unit * n < unit * roundingLimit := Nat.mul_lt_mul_of_pos_left h unit_pos
  omega

theorem signedUnits_of_units {k : Int} {rank : Nat} (h : units rank = unit * k.natAbs) :
    signedUnits (decide (k < 0)) rank = k * unit := by
  unfold signedUnits
  rw [h, Int.natCast_mul, Int.mul_comm k]
  by_cases hneg : k < 0
  · rw [if_pos (decide_eq_true hneg), Int.ofNat_natAbs_of_nonpos hneg.le, Int.mul_neg, Int.neg_neg]
  · rw [if_neg (by rw [decide_eq_true_eq]; exact hneg), Int.natAbs_of_nonneg (Int.not_lt.mp hneg)]

theorem fits_iff {k : Int} : Fits k ↔ ∃ x : Binary64, x.toInt? = some k := by
  obtain ⟨u, hu⟩ := unit_eq_pow
  constructor
  · rintro ⟨hlimit, a, e, ha, hk⟩
    have hmul : unit * k.natAbs = a * Nat.pow 2 (e + u) := by
      rw [hk, hu, pow_two_add, Nat.mul_comm, Nat.mul_assoc]
    have hunits : units (floorRank (unit * k.natAbs)) = unit * k.natAbs := by
      rw [hmul, units_floorRank_of_shifted ha]
    have hrank : floorRank (unit * k.natAbs) < infinityRank :=
      floorRank_lt_iff.mpr (mul_unit_lt_of_lt_roundingLimit hlimit)
    have hwhole : units (floorRank (unit * k.natAbs)) % unit = 0 := by
      rw [hunits, Nat.mul_mod_right]
    have hunit : (unit : Int) ≠ 0 := by have := unit_pos; omega
    refine ⟨ranked (decide (k < 0)) ⟨_, Nat.lt_succ_of_lt hrank⟩, ?_⟩
    simp only [toInt?]
    rw [if_pos ⟨hrank, hwhole⟩, signedUnits_of_units hunits, Int.mul_ediv_cancel _ hunit]
  · rintro ⟨x, hx⟩
    obtain ⟨y, hy, -⟩ := ofInt?_of_toInt? hx
    have hlimit : k.natAbs < roundingLimit := by
      rw [← Nat.not_le, ← ofInt?_eq_none_iff, hy]
      exact Option.some_ne_none y
    cases x with
    | nan => cases hx
    | ranked negative rank =>
      obtain ⟨hunits, -⟩ := toInt?_ranked_eq_some hx
      rw [hu] at hunits
      exact ⟨hlimit, shifted_of_mul_pow (significand_lt rank) hunits.symm⟩

theorem fits_of_le {k : Int} (h : k.natAbs ≤ Nat.pow 2 53) : Fits k := by
  have hlimit : Nat.pow 2 53 < roundingLimit := by decide +kernel
  refine ⟨h.trans_lt hlimit, ?_⟩
  rcases Nat.lt_or_eq_of_le h with hlt | heq
  · exact ⟨k.natAbs, 0, hlt, (Nat.mul_one _).symm⟩
  · exact ⟨1, 53, by decide, heq.trans (Nat.one_mul _).symm⟩

/-- An odd integer of more than 53 bits does not fit. -/
theorem not_fits_of_odd {k : Int} (hodd : k.natAbs % 2 = 1) (h : Nat.pow 2 53 ≤ k.natAbs) :
    ¬ Fits k := by
  rintro ⟨-, a, e, ha, hk⟩
  cases e with
  | zero =>
    have hone : a * Nat.pow 2 0 = a := Nat.mul_one a
    rw [hone] at hk
    omega
  | succ e =>
    have hdouble : a * Nat.pow 2 (e + 1) = 2 * (a * Nat.pow 2 e) := by
      rw [pow_two_add, ← Nat.mul_assoc, Nat.mul_comm]
    rw [hdouble] at hk
    omega

/-! ### The number next to an integer -/

/-- The number next to an integer; from the limit on it is infinite. -/
def ofInt (k : Int) : Binary64 := .ranked (decide (k < 0)) (nearest k.natAbs 1)

theorem ofInt_of_roundingLimit_le {k : Int} (h : roundingLimit ≤ k.natAbs) :
    ofInt k = infinity (decide (k < 0)) :=
  congrArg (ranked _) (Fin.ext (nearest_eq_infinityRank_iff.mpr h))

/-- **The number next to an integer is an integer** below the limit. -/
theorem exists_toInt?_ofInt {k : Int} (h : k.natAbs < roundingLimit) :
    ∃ n, (ofInt k).toInt? = some n :=
  exists_toInt?_nearest h _

/-- **The integers that fit are rounded to themselves**, and only they are. -/
theorem toInt?_ofInt_iff {k : Int} : (ofInt k).toInt? = some k ↔ Fits k := by
  constructor
  · intro h
    exact fits_iff.mpr ⟨_, h⟩
  · intro h
    obtain ⟨x, hx⟩ := fits_iff.mp h
    obtain ⟨y, hy, hkey⟩ := ofInt?_of_toInt? hx
    have hofInt : ofInt k = y := by
      simp only [ofInt?] at hy
      split_ifs at hy
      exact Option.some.inj hy
    rw [hofInt, ← hx]
    refine toInt?_eq_of_key? ?_ hkey
    rw [← hofInt]
    rfl

end SubmissionRouting.Binary64
