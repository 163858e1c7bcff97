import SubmissionRouting.Proofs.FirstFault
import SubmissionRouting.Response
import Mathlib.Tactic.SplitIfs

/-! # What becomes of an answer

One equation for each kind of field. Where choices are made, an answer *considers* some values: all
that it lists, or the first of these, without nothing and the empty text. It becomes the ids of the
choices that these name (`Field.outcome_normalize_multiChoice`, `Field.outcome_normalize_singleChoice`).
A text in a field of numbers is read as a number (`Field.normalize_of_number`), and a list in a field of
texts becomes a tuple (`Field.outcome_normalize_free`). -/

namespace SubmissionRouting

namespace Value

variable {v : Value}

theorem eq_null_of_isNull (h : v.isNull = true) : v = null := by
  cases v with
  | null => rfl
  | _ => cases h

theorem isNull_of_sequence? {items : List Value} (h : v.sequence? = some items) : v.isNull = false := by
  cases v with
  | null => cases h
  | _ => rfl

end Value

namespace Field

variable {f : Field} {v : Value}

/-! ### What is considered -/

theorem isBlank_iff {v : Value} : isBlank v = true ↔ v = .null ∨ v = .text "" := by
  cases v <;>
    simp [isBlank, Value.isNull, Value.same, Value.alike, Value.scalarsAlike, Value.quantity?,
      Value.isNaN]

theorem isBlank_text {s : String} (h : s ≠ "") : isBlank (.text s) = false := by
  rw [Bool.eq_false_iff, Ne, isBlank_iff]
  rintro (hnull | htext)
  · cases hnull
  · exact h (Value.text.inj htext)

theorem filter_texts (texts : List String) :
    (texts.map Value.text).filter (fun w => !isBlank w) = (texts.filter fun s => s ≠ "").map .text := by
  rw [List.filter_map]
  congr 1
  refine List.filter_congr fun s _ => ?_
  show (!isBlank (.text s)) = decide (s ≠ "")
  by_cases hs : s = ""
  · subst hs
    rfl
  · rw [isBlank_text hs, decide_eq_true hs]
    rfl

/-- The value that an answer gives where one choice is made. -/
def first (answer : Value) : Value :=
  match answer.sequence? with
  | some vs => vs.headD .null
  | none => answer

/-- The values of an answer that are taken for choices. -/
def considered (f : Field) (answer : Value) : List Value :=
  if f.kind.isMultiChoice then (answer.sequence?.getD [answer]).filter fun v => !isBlank v
  else if f.kind.isSingleChoice then [first answer].filter fun v => !isBlank v
  else []

theorem considered_of_multiChoice (hkind : f.kind.isMultiChoice = true) (v : Value) :
    f.considered v = (v.sequence?.getD [v]).filter fun w => !isBlank w := if_pos hkind

theorem considered_of_singleChoice (hkind : f.kind.isSingleChoice = true) (v : Value) :
    f.considered v = if isBlank (first v) then [] else [first v] := by
  unfold considered
  rw [FieldKind.isMultiChoice_of_isSingleChoice hkind, hkind]
  show [first v].filter (fun w => !isBlank w) = _
  cases hblank : isBlank (first v) <;> simp [hblank]

theorem considered_of_no_choices (hmulti : f.kind.isMultiChoice = false)
    (hsingle : f.kind.isSingleChoice = false) (v : Value) : f.considered v = [] := by
  unfold considered
  rw [hmulti, hsingle]
  rfl

theorem not_isBlank_of_mem_considered {w : Value} (h : w ∈ f.considered v) : isBlank w = false := by
  unfold considered at h
  split_ifs at h
  · simpa using (List.mem_filter.mp h).2
  · simpa using (List.mem_filter.mp h).2
  · cases h

/-! ### The choices that are named -/

/-- The choice of a field is that of its slot: a text without choice is only told in a record. -/
theorem outcome_choiceId (f : Field) (v : Value) :
    (f.choiceId v).outcome = orFault (f.slot.choiceId v) := by
  unfold choiceId Slot.choiceId
  rw [Journaled.outcome_bind, Journaled.outcome_liftM_misuse]
  cases v.shown with
  | error e => rfl
  | ok s =>
    show Journaled.outcome _ = Except.ok (f.slot.idOfText s)
    unfold Slot.idOfText
    cases f.slot.choice? s with
    | some c => rfl
    | none =>
      dsimp only
      rw [Journaled.outcome_bind, Journaled.outcome_note]
      rfl

theorem outcome_choiceIds (f : Field) (vs : List Value) :
    (f.choiceIds vs).outcome = vs.mapM fun v => orFault (f.slot.choiceId v) := by
  unfold choiceIds
  rw [Journaled.outcome_mapM]
  exact congrArg (fun g => vs.mapM g) (funext f.outcome_choiceId)

/-! ### Kind by kind -/

/-- **Several choices**: nothing stays, and any other answer becomes the ids of what it considers. -/
theorem outcome_normalize_multiChoice (hkind : f.kind.isMultiChoice = true) (hnull : v.isNull = false) :
    (f.normalize v).outcome =
      ((f.considered v).mapM fun w => orFault (f.slot.choiceId w)).map
        fun ids => .tuple (ids.map .text) := by
  unfold normalize considered
  rw [hnull, if_pos hkind, if_pos hkind]
  show Journaled.outcome (f.choiceIds _ >>= _) = _
  rw [Journaled.outcome_bind, outcome_choiceIds]
  rfl

theorem outcome_normalize_texts (hkind : f.kind.isMultiChoice = true) (hnull : v.isNull = false)
    {texts : List String} (hitems : v.sequence?.getD [v] = texts.map .text) :
    (f.normalize v).outcome =
      .ok (.tuple (((texts.filter fun s => s ≠ "").map f.slot.idOfText).map .text)) := by
  have hread : (texts.filter fun s => s ≠ "").mapM (fun s => (pure (f.slot.idOfText s) : Result String)) =
      .ok ((texts.filter fun s => s ≠ "").map f.slot.idOfText) := List.mapM_pure
  rw [outcome_normalize_multiChoice hkind hnull, considered_of_multiChoice hkind, hitems, filter_texts,
    List.mapM_map]
  exact congrArg (Except.map _) hread

/-- **One choice**: what is considered becomes an id, and anything else stays. -/
theorem outcome_normalize_singleChoice (hkind : f.kind.isSingleChoice = true) (v : Value) :
    (f.normalize v).outcome =
      if isBlank (first v) then .ok (first v)
      else (orFault (f.slot.choiceId (first v))).map .text := by
  cases hnull : v.isNull with
  | true =>
    obtain rfl := Value.eq_null_of_isNull hnull
    rfl
  | false =>
    unfold normalize
    rw [hnull, FieldKind.isMultiChoice_of_isSingleChoice hkind, hkind]
    show Journaled.outcome (if isBlank (first v) = true then pure (first v)
      else f.choiceId (first v) >>= fun id => pure (.text id)) = _
    split_ifs
    · rfl
    · rw [Journaled.outcome_bind, outcome_choiceId]
      cases orFault (f.slot.choiceId (first v)) <;> rfl

theorem outcome_normalize_text (hkind : f.kind = .number) (s : String) :
    (f.normalize (.text s)).outcome = .ok (numeral s) := by
  unfold normalize
  rw [hkind]
  rfl

theorem normalize_of_number (hkind : f.kind = .number) (v : Value) :
    (f.normalize v).outcome = .ok v ∨
      ∃ s, v = .text s ∧ (f.normalize v).outcome = .ok (numeral s) := by
  have hmulti : f.kind.isMultiChoice = false := by rw [hkind]; rfl
  have hsingle : f.kind.isSingleChoice = false := by rw [hkind]; rfl
  unfold normalize
  rw [hmulti, hsingle, if_pos hkind]
  cases v with
  | text s => exact .inr ⟨s, rfl, rfl⟩
  | _ => exact .inl rfl

theorem outcome_normalize_free (hkind : f.kind ∈ [.text, .textarea, .email, .phone]) (v : Value) :
    (f.normalize v).outcome = .ok ((v.sequence?.map .tuple).getD v) := by
  obtain ⟨hmulti, hsingle, hnumber⟩ := FieldKind.not_choice_of_free hkind
  cases hnull : v.isNull with
  | true =>
    obtain rfl := Value.eq_null_of_isNull hnull
    rfl
  | false =>
    unfold normalize
    rw [hnull, hmulti, hsingle, if_neg hnumber]
    cases v.sequence? <;> rfl

end Field

end SubmissionRouting
