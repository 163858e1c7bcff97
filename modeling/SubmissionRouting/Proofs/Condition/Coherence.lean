import SubmissionRouting.Proofs.Condition.Comparisons
import Mathlib.Data.List.Infix

/-! # Operators on texts and choices among each other

An operator on texts holds exactly if one of the texts of the value stands in some relation to the
text of the comparand (`TextsRelate`), and an operator on choices exactly if the ids of the chosen
stand in some relation to the ids of the listed (`ChoicesRelate`). For texts the relations are
equality, prefix, suffix and infix; for choices they compare the sets of ids, or ask for the first
of the chosen.

So an operator implies another if its relation does, whatever the guards of the two are
(`Operator.operators_coherent`). The table of choices does not matter for this: it is used for nothing
but to find the ids of the chosen and of the listed. -/

namespace SubmissionRouting

/-! ### What an empty value lists -/

theorem Value.asList_filter_of_isEmpty {v : Value} (h : v.isEmpty = true) :
    v.asList.filter (fun w => !w.isEmpty) = [] := by
  have hitem : [v].filter (fun w => !w.isEmpty) = [] := by simp [h]
  unfold isEmpty at h
  unfold asList
  cases hv : v.opened with
  | null => rfl
  | text s => exact hitem
  | map entries => exact hitem
  | list items | tuple items | set items =>
    rw [hv] at h
    rw [List.isEmpty_iff.mp h]
    rfl
  | _ =>
    rw [hv] at h
    cases h

namespace Slot

variable {slot : Slot} {value comparand : Value}

theorem choiceIds_of_isEmpty (h : value.isEmpty = true) : slot.choiceIds value = .ok [] := by
  unfold choiceIds
  rw [Value.asList_filter_of_isEmpty h]
  rfl

theorem isEmpty_of_choiceIds {chosen : List String} (h : slot.choiceIds value = .ok chosen)
    (hchosen : chosen ≠ []) : value.isEmpty = false := by
  by_contra hempty
  rw [choiceIds_of_isEmpty (by simpa using hempty)] at h
  exact hchosen (Except.ok.inj h).symm

theorem choiceIds_tuple (h : comparand.isEmpty = false) {wanted : List String} :
    slot.choiceIds (.tuple [comparand]) = .ok wanted ↔
      ∃ id, slot.choiceId comparand = .ok id ∧ wanted = [id] := by
  have hitems : (Value.tuple [comparand]).asList.filter (fun w => !w.isEmpty) = [comparand] := by
    simp [Value.asList, h]
  unfold choiceIds
  rw [hitems, List.mapM_cons, List.mapM_nil]
  cases slot.choiceId comparand with
  | error e => exact iff_of_false nofun nofun
  | ok id => simp [bind, Except.bind, pure, Except.pure, eq_comm]

end Slot

namespace Operator

variable {value comparand : Value} {slot : Slot}

/-! ### Operators on texts -/

/-- One of the texts of the value stands in a relation to the text of the comparand. -/
def TextsRelate (R : List Char → List Char → Prop) (value comparand : Value) : Prop :=
  ∃ wanted texts, comparand.comparisonText = .ok wanted ∧ value.comparisonTexts = .ok texts ∧
    ∃ t ∈ texts, R wanted t

theorem TextsRelate.mono {R S : List Char → List Char → Prop} (h : TextsRelate R value comparand)
    (hRS : ∀ s t, R s t → S s t) : TextsRelate S value comparand := by
  obtain ⟨wanted, texts, hwanted, htexts, t, ht, hR⟩ := h
  exact ⟨wanted, texts, hwanted, htexts, t, ht, hRS wanted t hR⟩

theorem textEquals_iff : textEquals value comparand = .ok true ↔
    TextsRelate (· = ·) value comparand := by
  constructor
  · intro h
    obtain ⟨wanted, hwanted, h⟩ := exists_of_bind_eq_ok h
    obtain ⟨texts, htexts, h⟩ := exists_of_bind_eq_ok h
    have hmem : wanted ∈ texts := List.contains_iff_mem.mp (Except.ok.inj h)
    exact ⟨wanted, texts, hwanted, htexts, wanted, hmem, rfl⟩
  · rintro ⟨wanted, texts, hwanted, htexts, t, ht, rfl⟩
    unfold textEquals
    rw [hwanted, ok_bind, htexts, ok_bind]
    exact congrArg Except.ok (List.contains_iff_mem.mpr ht)

theorem given_iff {verdict : Except Misuse Bool} :
    (if value.isEmpty then pure false else verdict) = .ok true ↔
      value.isEmpty = false ∧ verdict = .ok true := by
  by_cases h : value.isEmpty = true
  · rw [if_pos h]
    exact iff_of_false nofun fun hgiven => by simp [h] at hgiven
  · rw [if_neg h]
    exact (and_iff_right (by simpa using h)).symm

theorem anyText_iff {relation : List Char → List Char → Bool} {R : List Char → List Char → Prop}
    (hR : ∀ s t, relation s t = true ↔ R s t) : anyText relation value comparand = .ok true ↔
      value.isEmpty = false ∧ TextsRelate R value comparand := by
  refine given_iff.trans (and_congr_right fun _ => ?_)
  constructor
  · intro h
    obtain ⟨texts, htexts, h⟩ := exists_of_bind_eq_ok h
    split at h
    · cases h
    obtain ⟨wanted, hwanted, h⟩ := exists_of_bind_eq_ok h
    obtain ⟨t, ht, hrelation⟩ := List.any_eq_true.mp (Except.ok.inj h)
    exact ⟨wanted, texts, hwanted, htexts, t, ht, (hR wanted t).mp hrelation⟩
  · rintro ⟨wanted, texts, hwanted, htexts, t, ht, h⟩
    rw [htexts, ok_bind]
    split
    · cases ht
    rw [hwanted, ok_bind]
    exact congrArg Except.ok (List.any_eq_true.mpr ⟨t, ht, (hR wanted t).mpr h⟩)

theorem occursIn_iff {needle t : List Char} : occursIn needle t = true ↔ needle <:+: t := by
  induction t with
  | nil => rw [occursIn, List.isEmpty_iff, List.infix_nil]
  | cons c cs ih =>
    rw [occursIn, Bool.or_eq_true, List.isPrefixOf_iff_prefix, ih, List.infix_cons_iff]

theorem textContains_iff : textContains value comparand = .ok true ↔
    TextsRelate (· <:+: ·) value comparand := by
  constructor
  · intro h
    obtain ⟨needle, hneedle, h⟩ := exists_of_bind_eq_ok h
    obtain ⟨texts, htexts, h⟩ := exists_of_bind_eq_ok h
    obtain ⟨t, ht, hoccurs⟩ := List.any_eq_true.mp (Except.ok.inj h)
    exact ⟨needle, texts, hneedle, htexts, t, ht, occursIn_iff.mp hoccurs⟩
  · rintro ⟨needle, texts, hneedle, htexts, t, ht, h⟩
    unfold textContains
    rw [hneedle, ok_bind, htexts, ok_bind]
    exact congrArg Except.ok (List.any_eq_true.mpr ⟨t, ht, occursIn_iff.mpr h⟩)

theorem startsWith_iff : startsWith.Accepts value comparand slot ↔
    value.isEmpty = false ∧ TextsRelate (· <+: ·) value comparand :=
  anyText_iff fun _ _ => List.isPrefixOf_iff_prefix

theorem endsWith_iff : endsWith.Accepts value comparand slot ↔
    value.isEmpty = false ∧ TextsRelate (· <:+ ·) value comparand :=
  anyText_iff fun _ _ => List.isSuffixOf_iff_suffix

/-! ### Operators on choices -/

/-- The ids of the chosen stand in a relation to the ids of the listed. -/
def ChoicesRelate (R : List String → List String → Prop) (value comparand : Value) (slot : Slot) :
    Prop :=
  ∃ chosen wanted, slot.choiceIds value = .ok chosen ∧ slot.choiceIds comparand = .ok wanted ∧
    R chosen wanted

theorem ChoicesRelate.mono {R S : List String → List String → Prop}
    (h : ChoicesRelate R value comparand slot) (hRS : ∀ xs ys, R xs ys → S xs ys) :
    ChoicesRelate S value comparand slot := by
  obtain ⟨chosen, wanted, hchosen, hwanted, hR⟩ := h
  exact ⟨chosen, wanted, hchosen, hwanted, hRS chosen wanted hR⟩

theorem ChoicesRelate.isEmpty {R : List String → List String → Prop}
    (h : ChoicesRelate R value comparand slot) (hR : ∀ ys, ¬ R [] ys) : value.isEmpty = false := by
  obtain ⟨chosen, wanted, hchosen, -, hrel⟩ := h
  refine Slot.isEmpty_of_choiceIds hchosen fun hnil => hR wanted ?_
  rwa [hnil] at hrel

theorem subset_iff {xs ys : List String} : subset xs ys = true ↔ xs ⊆ ys := by
  simp [subset, List.subset_def]

theorem multiselectEquals_iff : multiselectEquals.Accepts value comparand slot ↔
    ChoicesRelate (fun chosen wanted => chosen ≠ [] ∧ chosen ⊆ wanted ∧ wanted ⊆ chosen)
      value comparand slot := by
  show choicesEqualHolds value comparand slot = .ok true ↔ _
  constructor
  · intro h
    obtain ⟨chosen, hchosen, h⟩ := exists_of_bind_eq_ok h
    split at h
    · cases h
    next hnil =>
    obtain ⟨wanted, hwanted, h⟩ := exists_of_bind_eq_ok h
    obtain ⟨hto, hfrom⟩ := (Bool.and_eq_true _ _).mp (Except.ok.inj h)
    exact ⟨chosen, wanted, hchosen, hwanted, hnil, subset_iff.mp hto, subset_iff.mp hfrom⟩
  · rintro ⟨chosen, wanted, hchosen, hwanted, hnil, hto, hfrom⟩
    unfold choicesEqualHolds
    rw [hchosen, ok_bind]
    split
    · exact absurd rfl hnil
    rw [hwanted, ok_bind]
    refine congrArg Except.ok ?_
    rw [sameChoices, subset_iff.mpr hto, subset_iff.mpr hfrom, Bool.and_self]

theorem multiselectAllIn_iff : multiselectAllIn.Accepts value comparand slot ↔
    ChoicesRelate (fun chosen wanted => wanted ≠ [] ∧ wanted ⊆ chosen) value comparand slot := by
  show allInHolds value comparand slot = .ok true ↔ _
  constructor
  · intro h
    obtain ⟨wanted, hwanted, h⟩ := exists_of_bind_eq_ok h
    split at h
    · cases h
    next hnil =>
    obtain ⟨chosen, hchosen, h⟩ := exists_of_bind_eq_ok h
    exact ⟨chosen, wanted, hchosen, hwanted, hnil, subset_iff.mp (Except.ok.inj h)⟩
  · rintro ⟨chosen, wanted, hchosen, hwanted, hnil, hfrom⟩
    unfold allInHolds
    rw [hwanted, ok_bind]
    split
    · exact absurd rfl hnil
    rw [hchosen, ok_bind]
    exact congrArg Except.ok (subset_iff.mpr hfrom)

theorem multiselectSomeIn_iff : multiselectSomeIn.Accepts value comparand slot ↔
    ChoicesRelate (fun chosen wanted => ∃ id ∈ chosen, id ∈ wanted) value comparand slot := by
  show someInHolds value comparand slot = .ok true ↔ _
  constructor
  · intro h
    obtain ⟨chosen, hchosen, h⟩ := exists_of_bind_eq_ok h
    obtain ⟨wanted, hwanted, h⟩ := exists_of_bind_eq_ok h
    obtain ⟨id, hid, hin⟩ := List.any_eq_true.mp (Except.ok.inj h)
    exact ⟨chosen, wanted, hchosen, hwanted, id, hid, List.contains_iff_mem.mp hin⟩
  · rintro ⟨chosen, wanted, hchosen, hwanted, id, hid, hin⟩
    unfold someInHolds
    rw [hchosen, ok_bind, hwanted, ok_bind]
    exact congrArg Except.ok (List.any_eq_true.mpr ⟨id, hid, List.contains_iff_mem.mpr hin⟩)

theorem selectAnyIn_iff : selectAnyIn.Accepts value comparand slot ↔
    ChoicesRelate (fun chosen wanted => ∃ id ∈ chosen.head?, id ∈ wanted) value comparand slot := by
  show selectAnyInHolds value comparand slot = .ok true ↔ _
  constructor
  · intro h
    obtain ⟨chosen, hchosen, h⟩ := exists_of_bind_eq_ok h
    split at h
    · cases h
    next id rest =>
    obtain ⟨wanted, hwanted, h⟩ := exists_of_bind_eq_ok h
    exact ⟨id :: rest, wanted, hchosen, hwanted, id, rfl,
      List.contains_iff_mem.mp (Except.ok.inj h)⟩
  · rintro ⟨chosen, wanted, hchosen, hwanted, id, hid, hin⟩
    obtain ⟨rest, rfl⟩ := List.head?_eq_some_iff.mp hid
    unfold selectAnyInHolds
    rw [hchosen, ok_bind]
    dsimp only
    rw [hwanted, ok_bind]
    exact congrArg Except.ok (List.contains_iff_mem.mpr hin)

theorem firstChoiceEquals_iff : firstChoiceEquals value comparand slot = .ok true ↔
    ∃ chosen id, slot.choiceIds value = .ok chosen ∧ slot.choiceId comparand = .ok id ∧
      chosen.head? = some id := by
  constructor
  · intro h
    obtain ⟨chosen, hchosen, h⟩ := exists_of_bind_eq_ok h
    split at h
    · cases h
    next id rest =>
    obtain ⟨wanted, hwanted, h⟩ := exists_of_bind_eq_ok h
    have heq : id = wanted := beq_iff_eq.mp (Except.ok.inj h)
    exact ⟨id :: rest, wanted, hchosen, hwanted, congrArg some heq⟩
  · rintro ⟨chosen, id, hchosen, hid, hfirst⟩
    obtain ⟨rest, rfl⟩ := List.head?_eq_some_iff.mp hfirst
    unfold firstChoiceEquals
    rw [hchosen, ok_bind]
    dsimp only
    rw [hid, ok_bind]
    exact congrArg Except.ok (beq_iff_eq.mpr rfl)

/-! ### Operators that depend on the kind -/

theorem equals_iff_of_text (hkind : slot.kind ∈ [.text, .textarea, .email, .phone]) :
    equals.Accepts value comparand slot ↔
      value.isEmpty = false ∧ TextsRelate (· = ·) value comparand := by
  obtain ⟨hmulti, hsingle, hnumber⟩ := FieldKind.not_choice_of_free hkind
  refine given_iff.trans (and_congr_right fun _ => ?_)
  rw [FieldKind.hasChoices, hmulti, hsingle, Bool.or_false, if_neg Bool.false_ne_true,
    if_neg Bool.false_ne_true, if_neg hnumber]
  exact textEquals_iff

theorem contains_iff_of_text (hkind : slot.kind.hasChoices = false) :
    contains.Accepts value comparand slot ↔
      value.isEmpty = false ∧ TextsRelate (· <:+: ·) value comparand := by
  refine given_iff.trans (and_congr_right fun _ => ?_)
  rw [hkind, if_neg Bool.false_ne_true]
  exact textContains_iff

theorem isEmpty_of_multiselectEquals (h : multiselectEquals.Accepts value comparand slot) :
    value.isEmpty = false :=
  (multiselectEquals_iff.mp h).isEmpty fun _ hnil => hnil.1 rfl

theorem isEmpty_of_multiselectAllIn (h : multiselectAllIn.Accepts value comparand slot) :
    value.isEmpty = false :=
  (multiselectAllIn_iff.mp h).isEmpty fun _ hnil => hnil.1 (List.subset_nil.mp hnil.2)

theorem isEmpty_of_multiselectSomeIn (h : multiselectSomeIn.Accepts value comparand slot) :
    value.isEmpty = false := by
  refine (multiselectSomeIn_iff.mp h).isEmpty ?_
  rintro wanted ⟨id, hid, -⟩
  cases hid

theorem isEmpty_of_selectAnyIn (h : selectAnyIn.Accepts value comparand slot) :
    value.isEmpty = false := by
  refine (selectAnyIn_iff.mp h).isEmpty ?_
  rintro wanted ⟨id, hid, -⟩
  cases hid

theorem contains_iff_multiselectAllIn (hkind : slot.kind.hasChoices = true) :
    contains.Accepts value comparand slot ↔ multiselectAllIn.Accepts value comparand slot := by
  refine given_iff.trans ?_
  rw [if_pos hkind]
  exact and_iff_right_of_imp isEmpty_of_multiselectAllIn

theorem equals_iff_multiselectEquals (hkind : slot.kind.isMultiChoice = true) :
    equals.Accepts value comparand slot ↔ multiselectEquals.Accepts value comparand slot := by
  refine given_iff.trans ?_
  rw [if_pos hkind]
  exact and_iff_right_of_imp isEmpty_of_multiselectEquals

theorem equals_iff_of_singleChoice (hkind : slot.kind.isSingleChoice = true) :
    equals.Accepts value comparand slot ↔
      ∃ chosen id, slot.choiceIds value = .ok chosen ∧ slot.choiceId comparand = .ok id ∧
        chosen.head? = some id := by
  refine given_iff.trans ?_
  rw [FieldKind.hasChoices, hkind, FieldKind.isMultiChoice_of_isSingleChoice hkind, Bool.true_or,
    if_neg Bool.false_ne_true, if_pos rfl, firstChoiceEquals_iff]
  refine and_iff_right_of_imp ?_
  rintro ⟨chosen, id, hchosen, -, hfirst⟩
  refine Slot.isEmpty_of_choiceIds hchosen fun hnil => ?_
  rw [hnil] at hfirst
  cases hfirst

theorem selectAnyIn_tuple_iff (h : comparand.isEmpty = false) :
    selectAnyIn.Accepts value (.tuple [comparand]) slot ↔
      ∃ chosen id, slot.choiceIds value = .ok chosen ∧ slot.choiceId comparand = .ok id ∧
        chosen.head? = some id := by
  rw [selectAnyIn_iff]
  constructor
  · rintro ⟨chosen, wanted, hchosen, hwanted, id, hid, hin⟩
    obtain ⟨id', hid', rfl⟩ := (Slot.choiceIds_tuple h).mp hwanted
    obtain rfl := List.mem_singleton.mp hin
    exact ⟨chosen, id, hchosen, hid', hid⟩
  · rintro ⟨chosen, id, hchosen, hid, hfirst⟩
    have hwanted : slot.choiceIds (.tuple [comparand]) = .ok [id] :=
      (Slot.choiceIds_tuple h).mpr ⟨id, hid, rfl⟩
    exact ⟨chosen, [id], hchosen, hwanted, id, hfirst, List.mem_singleton_self id⟩

/-! ### Operators do not hold of empty values -/

/-- The operators on texts and choices that ask for something that is there. -/
def positives : List Operator :=
  [equals, contains, startsWith, endsWith, selectAnyIn, multiselectSomeIn, multiselectAllIn,
    multiselectEquals]

theorem isEmpty_of_accepts {o : Operator} (ho : o ∈ positives ++ comparisons)
    (h : o.Accepts value comparand slot) : value.isEmpty = false := by
  rcases List.mem_append.mp ho with ho | ho
  · cases o with
    | equals | contains => exact (given_iff.mp h).1
    | startsWith => exact (startsWith_iff.mp h).1
    | endsWith => exact (endsWith_iff.mp h).1
    | selectAnyIn => exact isEmpty_of_selectAnyIn h
    | multiselectSomeIn => exact isEmpty_of_multiselectSomeIn h
    | multiselectAllIn => exact isEmpty_of_multiselectAllIn h
    | multiselectEquals => exact isEmpty_of_multiselectEquals h
    | _ => exact absurd ho (by decide)
  · obtain ⟨x, hx⟩ := denotesNumber_of_comparison ho h
    exact Value.isEmpty_of_number hx

/-! ### How the operators go together -/

/-- How the operators on texts go together. -/
structure CoherentTexts (value comparand : Value) (slot : Slot) : Prop where
  startsWith_of_equals : slot.kind ∈ [.text, .textarea, .email, .phone] →
    equals.Accepts value comparand slot → startsWith.Accepts value comparand slot
  endsWith_of_equals : slot.kind ∈ [.text, .textarea, .email, .phone] →
    equals.Accepts value comparand slot → endsWith.Accepts value comparand slot
  contains_of_startsWith : slot.kind.hasChoices = false →
    startsWith.Accepts value comparand slot → contains.Accepts value comparand slot
  contains_of_endsWith : slot.kind.hasChoices = false →
    endsWith.Accepts value comparand slot → contains.Accepts value comparand slot

/-- How the operators on choices go together, on slots of every kind, and which of them the
operators on texts become where choices are made. -/
structure CoherentChoices (value comparand : Value) (slot : Slot) : Prop where
  allIn_of_equals : multiselectEquals.Accepts value comparand slot →
    multiselectAllIn.Accepts value comparand slot
  someIn_of_allIn : multiselectAllIn.Accepts value comparand slot →
    multiselectSomeIn.Accepts value comparand slot
  someIn_of_anyIn : selectAnyIn.Accepts value comparand slot →
    multiselectSomeIn.Accepts value comparand slot
  contains_iff_allIn : slot.kind.hasChoices = true →
    (contains.Accepts value comparand slot ↔ multiselectAllIn.Accepts value comparand slot)
  equals_iff_equals : slot.kind.isMultiChoice = true →
    (equals.Accepts value comparand slot ↔ multiselectEquals.Accepts value comparand slot)
  /-- Equality with one choice is being in a list that names this choice only. -/
  equals_iff_anyIn : slot.kind.isSingleChoice = true → comparand.isEmpty = false →
    (equals.Accepts value comparand slot ↔ selectAnyIn.Accepts value (.tuple [comparand]) slot)

theorem coherentTexts (value comparand : Value) (slot : Slot) :
    CoherentTexts value comparand slot where
  startsWith_of_equals hkind h := by
    obtain ⟨hgiven, hequal⟩ := (equals_iff_of_text hkind).mp h
    refine startsWith_iff.mpr ⟨hgiven, hequal.mono ?_⟩
    rintro s t rfl
    exact List.prefix_rfl
  endsWith_of_equals hkind h := by
    obtain ⟨hgiven, hequal⟩ := (equals_iff_of_text hkind).mp h
    refine endsWith_iff.mpr ⟨hgiven, hequal.mono ?_⟩
    rintro s t rfl
    exact List.suffix_rfl
  contains_of_startsWith hkind h := by
    obtain ⟨hgiven, hstarts⟩ := startsWith_iff.mp h
    exact (contains_iff_of_text hkind).mpr ⟨hgiven, hstarts.mono fun _ _ => List.IsPrefix.isInfix⟩
  contains_of_endsWith hkind h := by
    obtain ⟨hgiven, hends⟩ := endsWith_iff.mp h
    exact (contains_iff_of_text hkind).mpr ⟨hgiven, hends.mono fun _ _ => List.IsSuffix.isInfix⟩

theorem coherentChoices (value comparand : Value) (slot : Slot) :
    CoherentChoices value comparand slot where
  allIn_of_equals h := by
    refine multiselectAllIn_iff.mpr ((multiselectEquals_iff.mp h).mono ?_)
    rintro chosen wanted ⟨hchosen, hto, hfrom⟩
    refine ⟨fun hnil => hchosen ?_, hfrom⟩
    rwa [hnil, List.subset_nil] at hto
  someIn_of_allIn h := by
    refine multiselectSomeIn_iff.mpr ((multiselectAllIn_iff.mp h).mono ?_)
    rintro chosen wanted ⟨hwanted, hfrom⟩
    obtain ⟨id, hid⟩ := List.exists_mem_of_ne_nil wanted hwanted
    exact ⟨id, hfrom hid, hid⟩
  someIn_of_anyIn h := by
    refine multiselectSomeIn_iff.mpr ((selectAnyIn_iff.mp h).mono ?_)
    rintro chosen wanted ⟨id, hid, hin⟩
    exact ⟨id, List.mem_of_mem_head? hid, hin⟩
  contains_iff_allIn := contains_iff_multiselectAllIn
  equals_iff_equals := equals_iff_multiselectEquals
  equals_iff_anyIn hkind hcomparand :=
    (equals_iff_of_singleChoice hkind).trans (selectAnyIn_tuple_iff hcomparand).symm

/-- **The operators on texts and choices are coherent**: which implies which does not depend on the
table of choices, and none of them, nor any comparison of numbers, holds of an empty value. -/
theorem operators_coherent (value comparand : Value) (slot : Slot) :
    CoherentTexts value comparand slot ∧ CoherentChoices value comparand slot ∧
      (value.isEmpty = true →
        ∀ o ∈ positives ++ comparisons, ¬ o.Accepts value comparand slot) := by
  refine ⟨coherentTexts value comparand slot, coherentChoices value comparand slot, ?_⟩
  intro hempty o ho haccepts
  rw [isEmpty_of_accepts ho haccepts] at hempty
  cases hempty

/-- A label that is the id of another choice, an id that two choices have, and a text among others
that is equal but for case and blanks. -/
theorem operators_coherent_of_ambiguous_table :
    let slot : Slot := ⟨.select, [⟨"a", .text "b"⟩, ⟨"b", .text "a"⟩, ⟨"a", .text "c"⟩]⟩
    let texts : Value := .list [.int 1, .text " Ab "]
    equals.Accepts (.text "c") (.text "a") slot ∧
      selectAnyIn.Accepts (.text "c") (.tuple [.text "a"]) slot ∧
      multiselectSomeIn.Accepts (.text "c") (.tuple [.text "a"]) slot ∧
      equals.Accepts texts (.text "aB") ⟨.email, []⟩ ∧
      contains.Accepts texts (.text "aB") ⟨.email, []⟩ ∧
      ∀ o ∈ positives ++ comparisons, ¬ o.Accepts (.tuple []) (.text "a") slot := by
  intro slot texts
  have hequal : equals.Accepts (.text "c") (.text "a") slot := by
    show equals.holds _ _ _ = _
    decide +kernel
  have htexts : equals.Accepts texts (.text "aB") ⟨.email, []⟩ := by
    show equals.holds _ _ _ = _
    decide +kernel
  obtain ⟨-, hsingle, -⟩ := operators_coherent (.text "c") (.text "a") slot
  obtain ⟨-, hlisted, -⟩ := operators_coherent (.text "c") (.tuple [.text "a"]) slot
  obtain ⟨hfree, -, -⟩ := operators_coherent texts (.text "aB") ⟨.email, []⟩
  obtain ⟨-, -, hnone⟩ := operators_coherent (.tuple []) (.text "a") slot
  have hany := (hsingle.equals_iff_anyIn rfl rfl).mp hequal
  have hstarts := hfree.startsWith_of_equals (by decide) htexts
  exact ⟨hequal, hany, hlisted.someIn_of_anyIn hany, htexts,
    hfree.contains_of_startsWith rfl hstarts, hnone rfl⟩

end Operator

end SubmissionRouting
