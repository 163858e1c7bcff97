import SubmissionRouting.Proofs.Value.Written

/-! # What operators fail with

An operator fails only with what the reading of a value fails with: the texts and numbers of the
value and the comparand, and of what they list (`Operator.failsOnly_holds`). So operators give a
verdict on values in range (`Operator.exists_holds`). -/

namespace SubmissionRouting

variable {P : Misuse → Prop}

/-- The value, and whatever it lists, is read as a text and as a number without other errors than
these. -/
structure Value.ReadsUpTo (P : Misuse → Prop) (v : Value) : Prop where
  shown : FailsOnly P v.shown
  number : FailsOnly P v.number
  shownItems : ∀ w ∈ v.asList, FailsOnly P w.shown
  numberItems : ∀ w ∈ v.asList, FailsOnly P w.number

theorem Value.InRange.readsUpTo {v : Value} (h : v.InRange) : v.ReadsUpTo P := by
  have hshown {w : Value} (hw : w.InRange) : FailsOnly P w.shown := by
    obtain ⟨s, hs⟩ := hw.exists_shown
    rw [hs]
    exact failsOnly_ok s
  have hnumber {w : Value} (hw : w.InRange) : FailsOnly P w.number := by
    obtain ⟨x, hx⟩ := hw.exists_number
    rw [hx]
    exact failsOnly_ok x
  exact ⟨hshown h, hnumber h, fun w hw => hshown (h.of_mem_asList hw),
    fun w hw => hnumber (h.of_mem_asList hw)⟩

/-! ### Texts and choices -/

namespace Value.ReadsUpTo

variable {v : Value}

theorem comparisonText (h : v.ReadsUpTo P) : FailsOnly P v.comparisonText := h.shown.map _

theorem comparisonTexts (h : v.ReadsUpTo P) : FailsOnly P v.comparisonTexts :=
  failsOnly_mapM fun w hw => (h.shownItems w (List.mem_of_mem_filter hw)).map _

theorem choiceId (h : v.ReadsUpTo P) (slot : Slot) : FailsOnly P (slot.choiceId v) := h.shown.map _

theorem choiceIds (h : v.ReadsUpTo P) (slot : Slot) : FailsOnly P (slot.choiceIds v) :=
  failsOnly_mapM fun w hw => (h.shownItems w (List.mem_of_mem_filter hw)).map _

end Value.ReadsUpTo

namespace Operator

variable {value comparand : Value}

/-! ### Numbers -/

theorem failsOnly_compare (relation : Binary64 → Binary64 → Bool) (hv : value.ReadsUpTo P)
    (hc : comparand.ReadsUpTo P) : FailsOnly P (compare relation value comparand) := by
  refine hv.number.bind fun left _ => hc.number.bind fun right _ => ?_
  split <;> exact failsOnly_ok _

theorem failsOnly_bounds (hc : comparand.ReadsUpTo P) : FailsOnly P (bounds comparand) := by
  unfold bounds
  split
  · next a b heq =>
    have hitems := hc.numberItems
    rw [heq] at hitems
    refine (hitems a (by simp)).bind fun low _ => (hitems b (by simp)).bind fun high _ => ?_
    split <;> exact failsOnly_ok _
  · exact failsOnly_ok none

theorem failsOnly_compareBounds (inside : Bool) (hv : value.ReadsUpTo P)
    (hc : comparand.ReadsUpTo P) : FailsOnly P (compareBounds inside value comparand) := by
  refine hv.number.bind fun number _ => (failsOnly_bounds hc).bind fun limits _ => ?_
  split <;> exact failsOnly_ok _

/-! ### Verdicts -/

variable (slot : Slot)

theorem failsOnly_choicesEqualHolds (hv : value.ReadsUpTo P) (hc : comparand.ReadsUpTo P) :
    FailsOnly P (choicesEqualHolds value comparand slot) := by
  refine (hv.choiceIds slot).bind fun chosen _ => ?_
  split
  · exact failsOnly_ok false
  · exact (hc.choiceIds slot).bind fun wanted _ => failsOnly_ok _

theorem failsOnly_firstChoiceEquals (hv : value.ReadsUpTo P) (hc : comparand.ReadsUpTo P) :
    FailsOnly P (firstChoiceEquals value comparand slot) := by
  refine (hv.choiceIds slot).bind fun chosen _ => ?_
  split
  · exact failsOnly_ok false
  · exact (hc.choiceId slot).bind fun wanted _ => failsOnly_ok _

theorem failsOnly_textEquals (hv : value.ReadsUpTo P) (hc : comparand.ReadsUpTo P) :
    FailsOnly P (textEquals value comparand) :=
  hc.comparisonText.bind fun _ _ => hv.comparisonTexts.bind fun _ _ => failsOnly_ok _

theorem failsOnly_equalsHolds (hv : value.ReadsUpTo P) (hc : comparand.ReadsUpTo P) :
    FailsOnly P (equalsHolds value comparand slot) := by
  unfold equalsHolds
  split_ifs
  · exact failsOnly_ok false
  · exact failsOnly_choicesEqualHolds slot hv hc
  · exact failsOnly_firstChoiceEquals slot hv hc
  · exact failsOnly_compare Binary64.same hv hc
  · exact failsOnly_textEquals hv hc

theorem failsOnly_anyText (relation : List Char → List Char → Bool) (hv : value.ReadsUpTo P)
    (hc : comparand.ReadsUpTo P) : FailsOnly P (anyText relation value comparand) := by
  unfold anyText
  split_ifs
  · exact failsOnly_ok false
  · refine hv.comparisonTexts.bind fun texts _ => ?_
    split
    · exact failsOnly_ok false
    · exact hc.comparisonText.bind fun wanted _ => failsOnly_ok _

theorem failsOnly_textContains (hv : value.ReadsUpTo P) (hc : comparand.ReadsUpTo P) :
    FailsOnly P (textContains value comparand) :=
  hc.comparisonText.bind fun _ _ => hv.comparisonTexts.bind fun _ _ => failsOnly_ok _

theorem failsOnly_allInHolds (hv : value.ReadsUpTo P) (hc : comparand.ReadsUpTo P) :
    FailsOnly P (allInHolds value comparand slot) := by
  refine (hc.choiceIds slot).bind fun wanted _ => ?_
  split
  · exact failsOnly_ok false
  · exact (hv.choiceIds slot).bind fun chosen _ => failsOnly_ok _

theorem failsOnly_containsHolds (hv : value.ReadsUpTo P) (hc : comparand.ReadsUpTo P) :
    FailsOnly P (containsHolds value comparand slot) := by
  unfold containsHolds
  split_ifs
  · exact failsOnly_ok false
  · exact failsOnly_allInHolds slot hv hc
  · exact failsOnly_textContains hv hc

theorem failsOnly_selectAnyInHolds (hv : value.ReadsUpTo P) (hc : comparand.ReadsUpTo P) :
    FailsOnly P (selectAnyInHolds value comparand slot) := by
  refine (hv.choiceIds slot).bind fun chosen _ => ?_
  split
  · exact failsOnly_ok false
  · exact (hc.choiceIds slot).bind fun wanted _ => failsOnly_ok _

theorem failsOnly_someInHolds (hv : value.ReadsUpTo P) (hc : comparand.ReadsUpTo P) :
    FailsOnly P (someInHolds value comparand slot) :=
  (hv.choiceIds slot).bind fun _ _ => (hc.choiceIds slot).bind fun _ _ => failsOnly_ok _

theorem failsOnly_holds (o : Operator) (hv : value.ReadsUpTo P) (hc : comparand.ReadsUpTo P) :
    FailsOnly P (o.holds value comparand slot) := by
  cases o with
  | equals => exact failsOnly_equalsHolds slot hv hc
  | notEquals => exact (failsOnly_equalsHolds slot hv hc).map _
  | contains => exact failsOnly_containsHolds slot hv hc
  | notContains => exact (failsOnly_containsHolds slot hv hc).map _
  | startsWith => exact failsOnly_anyText _ hv hc
  | endsWith => exact failsOnly_anyText _ hv hc
  | isEmpty => exact failsOnly_ok _
  | isNotEmpty => exact failsOnly_ok _
  | greater => exact failsOnly_compare _ hv hc
  | greaterOrEqual => exact failsOnly_compare _ hv hc
  | less => exact failsOnly_compare _ hv hc
  | lessOrEqual => exact failsOnly_compare _ hv hc
  | between => exact failsOnly_compareBounds true hv hc
  | notBetween => exact failsOnly_compareBounds false hv hc
  | selectAnyIn => exact failsOnly_selectAnyInHolds slot hv hc
  | selectNotAnyIn => exact (failsOnly_selectAnyInHolds slot hv hc).map _
  | multiselectSomeIn => exact failsOnly_someInHolds slot hv hc
  | multiselectAllIn => exact failsOnly_allInHolds slot hv hc
  | multiselectEquals => exact failsOnly_choicesEqualHolds slot hv hc
  | multiselectNotEquals => exact (failsOnly_choicesEqualHolds slot hv hc).map _

theorem exists_holds (o : Operator) (hv : value.InRange) (hc : comparand.InRange) :
    ∃ b, o.holds value comparand slot = .ok b :=
  exists_ok_of_failsOnly (o.failsOnly_holds slot hv.readsUpTo hc.readsUpTo) fun _ h => h

end Operator

end SubmissionRouting
