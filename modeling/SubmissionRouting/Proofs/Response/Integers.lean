import SubmissionRouting.Forwarding
import SubmissionRouting.Proofs.Number.Numerals
import SubmissionRouting.Proofs.Response.Normalized

/-! # Integers in answers

A field of the kind number keeps an integer as it is and hands it on as its numeral. The numeral as a
text is read as the double precision number next to the integer, and so comes back as the integer only
if that fits (`Field.takesInteger`). Any other integer comes back as the one that the number is, or as
infinity, and is handed on as such. -/

namespace SubmissionRouting

open Binary64 (Fits roundingLimit)

/-! ### Reading -/

theorem Value.numberInText?_decimalText (k : Int) :
    numberInText? (decimalText k) = some (.ofInt k) := by
  rw [numberInText?, Binary64.ofText?_decimalText]
  rfl

namespace Field

theorem numeral_decimalText (k : Int) :
    numeral (decimalText k) = ((Binary64.ofInt k).toInt?.map .int).getD (.float (.ofInt k)) := by
  rw [numeral, Value.numberInText?_decimalText]
  dsimp only
  cases (Binary64.ofInt k).toInt? <;> rfl

theorem numeral_of_toInt? {k n : Int} (h : (Binary64.ofInt k).toInt? = some n) :
    numeral (decimalText k) = .int n := by
  rw [numeral_decimalText, h]
  rfl

theorem numeral_of_roundingLimit_le {k : Int} (h : roundingLimit ≤ k.natAbs) :
    numeral (decimalText k) = .float (.infinity (decide (k < 0))) := by
  rw [numeral_decimalText, Binary64.ofInt_of_roundingLimit_le h]
  rfl

/-- **A numeral is read as its integer if and only if that fits.** -/
theorem numeral_decimalText_iff {k : Int} : numeral (decimalText k) = .int k ↔ Fits k := by
  rw [numeral_decimalText, ← Binary64.toInt?_ofInt_iff]
  cases (Binary64.ofInt k).toInt? <;> simp

variable {f : Field}

theorem outcome_normalize_int (hkind : f.kind = .number) (k : Int) :
    (f.normalize (.int k)).outcome = .ok (.int k) := by
  unfold normalize
  rw [hkind]
  rfl

/-! ### Handing on -/

theorem display_int (hkind : f.kind = .number) (k : Int) : f.display (.int k) = shownText (.int k) := by
  unfold display
  rw [hkind]
  rfl

theorem displayed_int (hkind : f.kind = .number) (k : Int) :
    f.displayed (.int k) = (wholeText k).map fun s => [.text s] := by
  unfold displayed
  rw [display_int hkind]
  show (Value.text <$> wholeText k) >>= _ = _
  cases wholeText k <;> rfl

theorem displayed_infinity (hkind : f.kind = .number) (negative : Bool) :
    f.displayed (.float (.infinity negative)) = .ok [.text (if negative then "-inf" else "inf")] := by
  unfold displayed display
  rw [hkind]
  cases negative <;> rfl

theorem displayed_of_toInt? (hkind : f.kind = .number) {x : Binary64} {n : Int}
    (h : x.toInt? = some n) : f.displayed (.int n) = .ok [.text (decimalText n)] := by
  obtain ⟨y, hy, -⟩ := Binary64.ofInt?_of_toInt? h
  rw [displayed_int hkind, wholeText, if_pos (Binary64.length_toDigits_of_ofInt? hy)]
  rfl

/-! ### Both ways of handing in -/

/-- What becomes of an integer that is handed in as itself, and of its numeral. -/
structure TakesInteger (f : Field) (k : Int) : Prop where
  /-- The integer is kept. -/
  kept : (f.normalize (.int k)).outcome = .ok (.int k)
  /-- It is handed on as its numeral if that is not too long, and not at all otherwise. -/
  displayed : f.displayed (.int k) =
    if (Nat.toDigits 10 k.natAbs).length ≤ Text.digitLimit then .ok [.text (decimalText k)]
    else .error .tooManyDigits
  /-- The numeral gives the integer if and only if that fits. -/
  read_iff : (f.normalize (.text (decimalText k))).outcome = .ok (.int k) ↔ Fits k
  /-- The numeral is handed on as itself if and only if its integer fits. -/
  readAndDisplayed_iff :
    (∃ v, (f.normalize (.text (decimalText k))).outcome = .ok v ∧
      f.displayed v = .ok [.text (decimalText k)]) ↔ Fits k
  /-- So the numeral gives the integer up to 53 bits. -/
  short : k.natAbs ≤ Nat.pow 2 53 → (f.normalize (.text (decimalText k))).outcome = .ok (.int k)
  /-- And beyond these it gives something else if the integer is odd. -/
  odd : Nat.pow 2 53 ≤ k.natAbs → k.natAbs % 2 = 1 →
    (f.normalize (.text (decimalText k))).outcome ≠ .ok (.int k)
  /-- Below the limit the numeral gives the integer that the number next to it is. -/
  rounded : k.natAbs < roundingLimit → ∃ n, (Binary64.ofInt k).toInt? = some n ∧
    (f.normalize (.text (decimalText k))).outcome = .ok (.int n) ∧
    f.displayed (.int n) = .ok [.text (decimalText n)]
  /-- From the limit on it gives infinity. -/
  infinite : roundingLimit ≤ k.natAbs →
    (f.normalize (.text (decimalText k))).outcome = .ok (.float (.infinity (decide (k < 0)))) ∧
    f.displayed (.float (.infinity (decide (k < 0)))) =
      .ok [.text (if k < 0 then "-inf" else "inf")]

theorem ne_decimalText_of_infinity (k : Int) (negative : Bool) :
    (if negative then "-inf" else "inf") ≠ decimalText k := by
  intro h
  have hplain : Text.Plain 'f' := by
    refine plain_of_mem_decimalText (k := k) ?_
    rw [← h]
    cases negative <;> decide
  rcases hplain with hdigit | hminus
  · exact absurd hdigit (by decide)
  · exact absurd hminus (by decide)

/-- What a numeral is read as is handed on as the numeral if and only if it is the integer. -/
theorem displayed_numeral_iff (hkind : f.kind = .number) (k : Int) :
    f.displayed (numeral (decimalText k)) = .ok [.text (decimalText k)] ↔ Fits k := by
  rw [← numeral_decimalText_iff]
  rcases Nat.lt_or_ge k.natAbs roundingLimit with hlimit | hlimit
  · obtain ⟨n, hn⟩ := Binary64.exists_toInt?_ofInt hlimit
    rw [numeral_of_toInt? hn, displayed_of_toInt? hkind hn, Value.int.injEq]
    constructor
    · intro h
      have htext : Value.text (decimalText n) = .text (decimalText k) :=
        List.head_eq_of_cons_eq (Except.ok.inj h)
      exact decimalText_injective (Value.text.inj htext)
    · intro h
      rw [h]
  · rw [numeral_of_roundingLimit_le hlimit, displayed_infinity hkind]
    refine iff_of_false (fun h => ?_) nofun
    have htext : Value.text (if decide (k < 0) then "-inf" else "inf") = .text (decimalText k) :=
      List.head_eq_of_cons_eq (Except.ok.inj h)
    exact ne_decimalText_of_infinity k _ (Value.text.inj htext)

/-- **A field of numbers keeps every integer, and its numeral comes to the same if and only if the integer
fits.** -/
theorem takesInteger (hkind : f.kind = .number) (k : Int) : f.TakesInteger k where
  kept := outcome_normalize_int hkind k
  displayed := by
    rw [displayed_int hkind, wholeText]
    split_ifs <;> rfl
  read_iff := by
    rw [outcome_normalize_text hkind, Except.ok.injEq]
    exact numeral_decimalText_iff
  readAndDisplayed_iff := by
    rw [outcome_normalize_text hkind]
    constructor
    · rintro ⟨v, hv, hshown⟩
      obtain rfl := Except.ok.inj hv
      exact (displayed_numeral_iff hkind k).mp hshown
    · intro h
      exact ⟨_, rfl, (displayed_numeral_iff hkind k).mpr h⟩
  short := by
    intro hshort
    rw [outcome_normalize_text hkind, numeral_decimalText_iff.mpr (Binary64.fits_of_le hshort)]
  odd := by
    intro hlong hodd
    rw [outcome_normalize_text hkind, Ne, Except.ok.injEq, numeral_decimalText_iff]
    exact Binary64.not_fits_of_odd hodd hlong
  rounded := by
    intro hlimit
    obtain ⟨n, hn⟩ := Binary64.exists_toInt?_ofInt hlimit
    refine ⟨n, hn, ?_, displayed_of_toInt? hkind hn⟩
    rw [outcome_normalize_text hkind, numeral_of_toInt? hn]
  infinite := by
    intro hlimit
    refine ⟨?_, ?_⟩
    · rw [outcome_normalize_text hkind, numeral_of_roundingLimit_le hlimit]
    · simpa using displayed_infinity hkind (decide (k < 0))

/-- A field of the kind number. -/
def ofNumbers : Field := ⟨.text "f", .text "F", .number, .text "", []⟩

/-- The first integer that does not fit, in a field of numbers. -/
theorem takesInteger_beyond_53_bits :
    ofNumbers.kind = .number ∧ ofNumbers.TakesInteger 9007199254740993 :=
  ⟨rfl, takesInteger rfl 9007199254740993⟩

/-- The last digit of a numeral of 16 digits is lost, and the numeral that is handed on is another. -/
theorem last_digit_lost :
    decimalText 9007199254740993 = "9007199254740993" ∧
    (ofNumbers.normalize (.int 9007199254740993)).outcome = .ok (.int 9007199254740993) ∧
    (ofNumbers.normalize (.text "9007199254740993")).outcome = .ok (.int 9007199254740992) ∧
    ofNumbers.displayed (.int 9007199254740992) = .ok [.text "9007199254740992"] := by
  have hnumeral : decimalText 9007199254740993 = "9007199254740993" := by decide +kernel
  have hrounded : (Binary64.ofInt 9007199254740993).toInt? = some 9007199254740992 := by
    decide +kernel
  refine ⟨hnumeral, outcome_normalize_int rfl _, ?_, ?_⟩
  · rw [← hnumeral, outcome_normalize_text rfl, numeral_of_toInt? hrounded]
  · rw [displayed_of_toInt? rfl hrounded]
    exact congrArg (fun s => Except.ok [Value.text s]) (by decide +kernel)

end Field

end SubmissionRouting
