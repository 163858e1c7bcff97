import SubmissionRouting.Number.Reading
import SubmissionRouting.Value.Literal
import SubmissionRouting.Proofs.Number.Integers
import Mathlib.Data.List.Basic
import Mathlib.Data.List.TakeWhile
import Mathlib.Data.Nat.Digits.Defs

/-! # Numerals

The numeral of an integer holds digits of the first ten behind a sign at most, so nothing in it is
trimmed, replaced or dropped when it is read (`Text.Plain`). It is read as the number next to the
integer (`Binary64.ofText?_decimalText`), and different integers have different numerals
(`decimalText_injective`). -/

namespace SubmissionRouting

/-! ### Digits -/

theorem digitValue?_of_isDigit {c : Char} (h : c.isDigit = true) :
    Text.digitValue? c = some (c.toNat - '0'.toNat) := by
  have hc : '0' ≤ c ∧ c ≤ '9' := by
    simp only [Char.isDigit, Bool.and_eq_true, decide_eq_true_eq] at h
    exact h
  have hascii : c.toNat < 0x80 := Nat.lt_of_le_of_lt (show c.toNat ≤ '9'.toNat from hc.2) (by decide)
  rw [Text.digitValue?, if_pos hascii, if_pos hc]
  rfl

theorem isDigit_of_mem_toDigits {n : Nat} {c : Char} (h : c ∈ Nat.toDigits 10 n) :
    c.isDigit = true :=
  Nat.isDigit_of_mem_toDigits (by decide) (by decide) h

theorem pow_le_of_lt_length {n k : Nat} (hk : 0 < k) (h : k < (Nat.toDigits 10 n).length) :
    Nat.pow 10 k ≤ n := by
  rw [← Nat.not_lt]
  intro hlt
  exact Nat.not_le_of_lt h ((Nat.length_toDigits_le_iff (by decide) hk).mpr hlt)

theorem decimalValue_toDigits (n : Nat) : Text.decimalValue (Nat.toDigits 10 n) = n := by
  refine Eq.trans ?_ (Nat.ofDigitChars_ten_toDigits (n := n))
  rw [Text.decimalValue, Nat.ofDigitChars]
  refine List.foldl_ext _ _ _ fun k c hc => ?_
  rw [digitValue?_of_isDigit (isDigit_of_mem_toDigits hc)]
  rfl

theorem isDecimal_toDigits (n : Nat) : Text.isDecimal (Nat.toDigits 10 n) = true := by
  have hall : (Nat.toDigits 10 n).all Text.isDigit = true := by
    refine List.all_eq_true.mpr fun c hc => ?_
    rw [Text.isDigit, digitValue?_of_isDigit (isDigit_of_mem_toDigits hc)]
    rfl
  rw [Text.isDecimal, hall, List.isEmpty_eq_false_iff.mpr Nat.toDigits_ne_nil]
  rfl

namespace Text

/-! ### Plain characters -/

/-- A character that stands for itself when a number is read: a digit of the first ten, or a minus. -/
def Plain (c : Char) : Prop := c.isDigit = true ∨ c = '-'

theorem bounds_of_isDigit {c : Char} (h : c.isDigit = true) : 0x30 ≤ c.toNat ∧ c.toNat ≤ 0x39 := by
  simp only [Char.isDigit, Bool.and_eq_true, decide_eq_true_eq] at h
  exact h

theorem isBlank_of_plain {c : Char} (h : Plain c) : isBlank c = false := by
  rcases h with h | rfl
  · have hbounds := bounds_of_isDigit h
    unfold isBlank
    simp only [Bool.or_eq_false_iff, Bool.and_eq_false_iff, beq_eq_false_iff_ne,
      decide_eq_false_iff_not]
    omega
  · rfl

theorem plainDigit_of_plain {c : Char} (h : Plain c) : plainDigit c = c := by
  rcases h with h | rfl
  · have hbounds := bounds_of_isDigit h
    have hsum : 0x30 + (c.toNat - '0'.toNat) = c.toNat := by
      rw [show '0'.toNat = 0x30 from rfl]
      omega
    rw [plainDigit, digitValue?_of_isDigit h]
    dsimp only
    rw [hsum, Char.ofNat_toNat]
  · rfl

theorem isPlainDigit_of_isDigit {c : Char} (h : c.isDigit = true) : isPlainDigit c = true := h

theorem toLower_of_isDigit {c : Char} (h : c.isDigit = true) : c.toLower = c := by
  have hbounds := bounds_of_isDigit h
  unfold Char.toLower
  rw [dif_neg]
  intro hupper
  have hle : 'A'.toNat ≤ c.toNat := hupper.1
  rw [show 'A'.toNat = 0x41 from rfl] at hle
  omega

/-! ### Plain texts -/

variable {cs : List Char}

theorem trim_of_plain (h : ∀ c ∈ cs, Plain c) : trim cs = cs := by
  have hkeep {ds : List Char} (hds : ∀ c ∈ ds, Plain c) : ds.dropWhile isBlank = ds := by
    cases ds with
    | nil => rfl
    | cons d ds =>
      rw [List.dropWhile_cons_of_neg]
      rw [isBlank_of_plain (hds d List.mem_cons_self)]
      exact Bool.false_ne_true
  have hreverse : ∀ c ∈ cs.reverse, Plain c := fun c hc => h c (List.mem_reverse.mp hc)
  unfold trim trimStart trimEnd
  rw [hkeep h, hkeep hreverse, List.reverse_reverse]

theorem map_plainDigit_of_plain (h : ∀ c ∈ cs, Plain c) : cs.map plainDigit = cs :=
  (List.map_congr_left fun c hc => plainDigit_of_plain (h c hc)).trans (List.map_id cs)

theorem withoutLowLines?_of_not_mem {previous : Char} (hprevious : previous ≠ '_')
    (h : '_' ∉ cs) : withoutLowLines? previous cs = some cs := by
  induction cs generalizing previous with
  | nil => exact if_neg hprevious
  | cons c cs ih =>
    have hc : '_' ≠ c := List.ne_of_not_mem_cons h
    have hcs : '_' ∉ cs := List.not_mem_of_not_mem_cons h
    rw [withoutLowLines?, if_neg (Ne.symm hc), if_neg fun hboth => hprevious hboth.1,
      ih (Ne.symm hc) hcs]
    rfl

theorem takeDigits_of_digits (h : ∀ c ∈ cs, c.isDigit = true) : takeDigits cs = (cs, []) := by
  have hdigits : ∀ c ∈ cs, isPlainDigit c = true := fun c hc => isPlainDigit_of_isDigit (h c hc)
  unfold takeDigits
  rw [List.takeWhile_eq_self_iff.mpr hdigits, List.dropWhile_eq_nil_iff.mpr hdigits]

theorem takeSign_of_digits (h : ∀ c ∈ cs, c.isDigit = true) : takeSign cs = (false, cs) := by
  unfold takeSign
  split
  · exact absurd (h '-' List.mem_cons_self) (by decide)
  · exact absurd (h '+' List.mem_cons_self) (by decide)
  · rfl

end Text

/-! ### Reading numerals -/

theorem toList_decimalText (k : Int) :
    (decimalText k).toList =
      if k < 0 then '-' :: Nat.toDigits 10 k.natAbs else Nat.toDigits 10 k.natAbs := by
  rw [decimalText, String.toList_ofList]

theorem takeSign_decimalText (k : Int) :
    Text.takeSign (decimalText k).toList = (decide (k < 0), Nat.toDigits 10 k.natAbs) := by
  rw [toList_decimalText]
  by_cases hk : k < 0
  · rw [if_pos hk, decide_eq_true hk]
    rfl
  · rw [if_neg hk, decide_eq_false hk]
    exact Text.takeSign_of_digits fun c hc => isDigit_of_mem_toDigits hc

theorem plain_of_mem_decimalText {k : Int} {c : Char} (h : c ∈ (decimalText k).toList) :
    Text.Plain c := by
  rw [toList_decimalText] at h
  split_ifs at h
  · rcases List.mem_cons.mp h with rfl | h
    · exact .inr rfl
    · exact .inl (isDigit_of_mem_toDigits h)
  · exact .inl (isDigit_of_mem_toDigits h)

theorem decimalText_injective {m n : Int} (h : decimalText m = decimalText n) : m = n := by
  have hsign := takeSign_decimalText m
  rw [h, takeSign_decimalText, Prod.mk.injEq, decide_eq_decide] at hsign
  have hvalue := congrArg Text.decimalValue hsign.2
  rw [decimalValue_toDigits, decimalValue_toDigits] at hvalue
  omega

namespace Binary64

theorem nearest_zero : (nearest 0 1).val = 0 := by
  have hunits : unit * 0 = units 0 :=
    (Nat.mul_zero unit).trans (units_of_lt (Nat.zero_div _)).symm
  exact nearest_of_units hunits (Nat.zero_le _)

theorem nearest_of_lt_length {n k : Nat} (hk : 0 < k) (hlimit : roundingLimit ≤ Nat.pow 10 k)
    (h : k < (Nat.toDigits 10 n).length) : (nearest n 1).val = infinityRank :=
  nearest_eq_infinityRank_iff.mpr (hlimit.trans (pow_le_of_lt_length hk h))

theorem ofDecimal_zero (negative : Bool) (n : Nat) :
    ofDecimal negative n 0 = ranked negative (nearest n 1) := by
  unfold ofDecimal
  dsimp only
  split_ifs with hzero hlong hshort hexponent
  · subst hzero
    exact congrArg (ranked negative) (Fin.ext nearest_zero.symm)
  · have hmany : 400 < (Nat.toDigits 10 n).length := by omega
    have hrank := nearest_of_lt_length (by decide) (by decide +kernel) hmany
    exact congrArg (ranked negative) (Fin.ext hrank.symm)
  · omega
  · have hone : n * Nat.pow 10 (0 : Int).toNat = n := Nat.mul_one n
    rw [hone]
    rfl
  · exact absurd le_rfl hexponent

theorem exponent?_nil : exponent? [] = some 0 := rfl

theorem ofUnsigned?_of_digits (negative : Bool) (n : Nat) :
    ofUnsigned? negative (Nat.toDigits 10 n) = some (ranked negative (nearest n 1)) := by
  have hdigits : ∀ c ∈ Nat.toDigits 10 n, c.isDigit = true := fun c hc => isDigit_of_mem_toDigits hc
  have hnonempty : ¬ ((Nat.toDigits 10 n).isEmpty = true ∧ ([] : List Char).isEmpty = true) := by
    rw [List.isEmpty_iff]
    exact fun hboth => Nat.toDigits_ne_nil hboth.1
  unfold ofUnsigned?
  rw [Text.takeDigits_of_digits hdigits]
  dsimp only
  rw [if_neg hnonempty, exponent?_nil, List.append_nil, decimalValue_toDigits]
  exact congrArg some (ofDecimal_zero negative n)

theorem map_toLower_toDigits_ne (n : Nat) (word : List Char) (h : ∃ c ∈ word, c.isDigit = false) :
    (Nat.toDigits 10 n).map Char.toLower ≠ word := by
  obtain ⟨c, hc, hdigit⟩ := h
  intro heq
  rw [← heq, List.mem_map] at hc
  obtain ⟨d, hd, rfl⟩ := hc
  have hisDigit := isDigit_of_mem_toDigits hd
  rw [Text.toLower_of_isDigit hisDigit, hisDigit] at hdigit
  cases hdigit

/-- **A numeral is read as the number next to its integer.** -/
theorem ofText?_decimalText (k : Int) : ofText? (decimalText k) = some (ofInt k) := by
  have hplain : ∀ c ∈ (decimalText k).toList, Text.Plain c := fun c hc => plain_of_mem_decimalText hc
  have hline : '_' ∉ (decimalText k).toList := fun hmem => by
    rcases hplain '_' hmem with h | h <;> cases h
  have hinf := map_toLower_toDigits_ne k.natAbs "inf".toList ⟨'i', by decide, rfl⟩
  have hinfinity := map_toLower_toDigits_ne k.natAbs "infinity".toList ⟨'i', by decide, rfl⟩
  have hnan := map_toLower_toDigits_ne k.natAbs "nan".toList ⟨'n', by decide, rfl⟩
  unfold ofText? ofChars?
  rw [Text.trim_of_plain hplain, Text.map_plainDigit_of_plain hplain,
    Text.withoutLowLines?_of_not_mem (by decide) hline, Option.bind_eq_bind, Option.bind_some]
  simp only [takeSign_decimalText]
  rw [if_neg (not_or.mpr ⟨hinf, hinfinity⟩), if_neg hnan, ofUnsigned?_of_digits]
  rfl

end Binary64

end SubmissionRouting
