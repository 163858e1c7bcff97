import SubmissionRouting.Proofs.Response.Verdicts
import SubmissionRouting.Proofs.Value.Filling
import SubmissionRouting.Proofs.Value.Shown

/-! # Answers in the types of their fields

An answer can be put into the type of its field if and only if every value that it considers has a text
(`Field.exists_normalize_iff`); where choices are made, it then becomes the ids of the choices that these
texts name (`Field.normalize_multiChoice_cases`, `Field.normalize_singleChoice_cases`).

So a typed answer has the form that the kind of the field says (`Field.Typed`), and typing it again
changes nothing: an id names the choice with this id, a list has become a tuple, and a text that is left
in a field of numbers denotes none. Only where several choices are made an empty id is dropped the
second time, and it comes from a label (`Field.Retyped`). -/

namespace SubmissionRouting.Field

variable {f : Field} {v n : Value}

/-! ### The choices that are named -/

/-- The text of a value names a choice, as an id. -/
def Names (f : Field) (v : Value) (id : String) : Prop := ∃ s, v.shown = .ok s ∧ f.slot.idOfText s = id

theorem choiceId_eq_ok_iff {id : String} : orFault (f.slot.choiceId v) = .ok id ↔ f.Names v id := by
  rw [orFault_eq_ok_iff]
  unfold Slot.choiceId Names
  cases v.shown with
  | error e => exact iff_of_false nofun nofun
  | ok s =>
    show Except.ok (f.slot.idOfText s) = .ok id ↔ _
    simp

/-! ### When an answer can be typed -/

theorem exists_choiceId_iff :
    (∃ id, orFault (f.slot.choiceId v) = .ok id) ↔ ∃ s, v.shown = .ok s := by
  simp only [choiceId_eq_ok_iff]
  constructor
  · rintro ⟨id, s, hs, -⟩
    exact ⟨s, hs⟩
  · rintro ⟨s, hs⟩
    exact ⟨_, s, hs, rfl⟩

/-- Every value that is taken for a choice has a text. -/
def Readable (f : Field) (v : Value) : Prop := ∀ w ∈ f.considered v, ∃ s, w.shown = .ok s

/-- **An answer can be put into the type of its field** if and only if every value that is considered
has a text. -/
theorem exists_normalize_iff (f : Field) (v : Value) :
    (∃ n, (f.normalize v).outcome = .ok n) ↔ f.Readable v := by
  unfold Readable
  rcases f.kind.choice_number_or_free with hkind | hkind | hkind | hkind
  · cases hnull : v.isNull with
    | true =>
      obtain rfl := Value.eq_null_of_isNull hnull
      rw [considered_of_multiChoice hkind]
      exact iff_of_true ⟨.null, rfl⟩ nofun
    | false =>
      rw [outcome_normalize_multiChoice hkind hnull, exists_ok_map_iff, exists_ok_mapM_iff]
      simp only [exists_choiceId_iff]
  · rw [outcome_normalize_singleChoice hkind, considered_of_singleChoice hkind]
    split_ifs
    · exact iff_of_true ⟨_, rfl⟩ nofun
    · rw [exists_ok_map_iff, exists_choiceId_iff, List.forall_mem_singleton]
  · rw [considered_of_no_choices (by rw [hkind]; rfl) (by rw [hkind]; rfl)]
    refine iff_of_true ?_ nofun
    rcases normalize_of_number hkind v with h | ⟨s, -, h⟩ <;> exact ⟨_, h⟩
  · obtain ⟨hmulti, hsingle, -⟩ := FieldKind.not_choice_of_free hkind
    rw [considered_of_no_choices hmulti hsingle]
    exact iff_of_true ⟨_, outcome_normalize_free hkind v⟩ nofun

theorem exists_holdsTooLong (h : ¬ f.Readable v) : ∃ w ∈ f.considered v, w.HoldsTooLong := by
  by_contra hnone
  refine h fun w hw => ?_
  exact exists_ok_of_failsOnly (Value.failsOnly_shown w) fun _ hlong => hnone ⟨w, hw, hlong.2⟩

/-! ### What a typed answer is -/

/-- **Several choices** become nothing, or the ids that the values considered name. -/
theorem normalize_multiChoice_cases (hkind : f.kind.isMultiChoice = true)
    (h : (f.normalize v).outcome = .ok n) :
    n = .null ∨ ∃ ids, n = .tuple (ids.map .text) ∧ List.Forall₂ f.Names (f.considered v) ids := by
  cases hnull : v.isNull with
  | true =>
    obtain rfl := Value.eq_null_of_isNull hnull
    exact .inl (Except.ok.inj h).symm
  | false =>
    rw [outcome_normalize_multiChoice hkind hnull] at h
    obtain ⟨ids, hids, rfl⟩ := exists_of_map_eq_ok h
    refine .inr ⟨ids, rfl, ?_⟩
    exact (forall₂_of_mapM hids).imp fun w id hid => choiceId_eq_ok_iff.mp hid

/-- **One choice** becomes nothing, the empty text, or the id that the value considered names. -/
theorem normalize_singleChoice_cases (hkind : f.kind.isSingleChoice = true)
    (h : (f.normalize v).outcome = .ok n) :
    n = .null ∨ n = .text "" ∨ ∃ id, n = .text id ∧ f.Names (first v) id := by
  rw [outcome_normalize_singleChoice hkind] at h
  split_ifs at h with hblank
  · rw [← Except.ok.inj h]
    exact (isBlank_iff.mp hblank).imp_right .inl
  · obtain ⟨id, hid, rfl⟩ := exists_of_map_eq_ok h
    exact .inr (.inr ⟨id, rfl, choiceId_eq_ok_iff.mp hid⟩)

/-- The form of a typed answer, by the kind of its field. -/
structure Typed (f : Field) (n : Value) : Prop where
  /-- Several choices are nothing or a tuple of texts. -/
  several : f.kind.isMultiChoice = true → n = .null ∨ ∃ texts : List String, n = .tuple (texts.map .text)
  /-- One choice is nothing or a text. -/
  one : f.kind.isSingleChoice = true → n = .null ∨ ∃ s, n = .text s
  /-- A text in a field of numbers denotes no number. -/
  number : f.kind = .number → ∀ s, n = .text s → Value.numberInText? s = none
  /-- There is no list in a field of texts. -/
  free : f.kind ∈ [.text, .textarea, .email, .phone] → ∀ items, n.opened ≠ .list items

theorem numberInText?_of_numeral {s t : String} (h : numeral s = .text t) :
    Value.numberInText? t = none := by
  unfold numeral at h
  cases hx : Value.numberInText? s with
  | none =>
    rw [hx] at h
    obtain rfl := Value.text.inj h
    exact hx
  | some x =>
    rw [hx] at h
    dsimp only at h
    cases hn : x.toInt? <;> rw [hn] at h <;> cases h

theorem numeral_of_no_number {s : String} (h : Value.numberInText? s = none) :
    numeral s = .text s := by
  unfold numeral
  rw [h]

theorem opened_ne_list {v : Value} (h : v.sequence? = none) (items : List Value) :
    v.opened ≠ .list items := by
  intro hopened
  unfold Value.sequence? at h
  rw [hopened] at h
  cases h

/-- **A typed answer has the form that the kind of its field says.** -/
theorem typed_of_normalize (h : (f.normalize v).outcome = .ok n) : f.Typed n where
  several := by
    intro hkind
    rcases normalize_multiChoice_cases hkind h with hnull | ⟨ids, hids, -⟩
    · exact .inl hnull
    · exact .inr ⟨ids, hids⟩
  one := by
    intro hkind
    rcases normalize_singleChoice_cases hkind h with hnull | hempty | ⟨id, hid, -⟩
    · exact .inl hnull
    · exact .inr ⟨_, hempty⟩
    · exact .inr ⟨id, hid⟩
  number := by
    rintro hkind t rfl
    rcases normalize_of_number hkind v with hv | ⟨s, rfl, hs⟩
    · obtain rfl := Except.ok.inj (hv.symm.trans h)
      have hread := (outcome_normalize_text hkind t).symm.trans h
      exact numberInText?_of_numeral (Except.ok.inj hread)
    · exact numberInText?_of_numeral (Except.ok.inj (hs.symm.trans h))
  free := by
    intro hkind
    have hn : (v.sequence?.map .tuple).getD v = n :=
      Except.ok.inj ((outcome_normalize_free hkind v).symm.trans h)
    subst hn
    cases hitems : v.sequence? with
    | none => exact opened_ne_list hitems
    | some items => exact nofun

/-! ### Typing once more -/

theorem Names.settled {id : String} (h : f.Names v id) : f.slot.idOfText id = id := by
  obtain ⟨s, -, rfl⟩ := h
  exact f.slot.idOfText_idOfText s

theorem outcome_normalize_ids (hkind : f.kind.isMultiChoice = true) {ids : List String}
    (hids : ∀ id ∈ ids, f.slot.idOfText id = id) :
    (f.normalize (.tuple (ids.map .text))).outcome =
      .ok (.tuple ((ids.filter fun id => id ≠ "").map .text)) := by
  have hsame : ∀ id ∈ ids.filter fun id => id ≠ "", f.slot.idOfText id = id :=
    fun id hid => hids id (List.mem_of_mem_filter hid)
  rw [outcome_normalize_texts hkind rfl rfl, List.map_congr_left hsame, List.map_id']

/-- The text of the value names a choice with an empty id, by the label. -/
def NamesEmptyByLabel (f : Field) (v : Value) : Prop :=
  ∃ s, v.shown = .ok s ∧ choiceById? f.choices s = none ∧
    ∃ c, choiceByLabel? f.choices (.text s) = some c ∧ c.id = ""

/-- **An empty id comes from a label**, since only the empty text has an empty text. -/
theorem Names.byLabel (h : f.Names v "") (hv : v.Rooted) (hblank : isBlank v = false) :
    f.NamesEmptyByLabel v := by
  obtain ⟨s, hs, hid⟩ := h
  have hne : v ≠ .text "" := by
    rintro rfl
    cases hblank
  have hs' : s ≠ "" := Value.shown_ne_empty hv hne hs
  unfold Slot.idOfText at hid
  cases hc : f.slot.choice? s with
  | none =>
    rw [hc] at hid
    exact absurd hid hs'
  | some c =>
    rw [hc] at hid
    rcases Option.or_eq_some_iff.mp hc with hfound | ⟨hnone, hfound⟩
    · have hfind : f.choices.find? (fun d => d.id == s) = some c := hfound
      have hsame : c.id = s := by simpa using List.find?_some hfind
      exact absurd (hsame.symm.trans hid) hs'
    · exact ⟨s, hs, hnone, c, hfound, hid⟩

/-- A tuple of texts of which one is empty. -/
def HoldsEmptyText (n : Value) : Prop := ∃ texts : List String, n = .tuple (texts.map .text) ∧ "" ∈ texts

/-- What comes of typing once more an answer that was typed already. -/
structure Retyped (f : Field) (v n : Value) : Prop where
  /-- It stays, unless it is several choices with an empty text among them. -/
  stays : ¬ (f.kind.isMultiChoice = true ∧ HoldsEmptyText n) → (f.normalize n).outcome = .ok n
  /-- Of several choices exactly the empty texts are dropped. -/
  dropped : f.kind.isMultiChoice = true → ∀ texts : List String, n = .tuple (texts.map .text) →
    (f.normalize n).outcome = .ok (.tuple ((texts.filter fun s => s ≠ "").map .text))
  /-- There is an empty text only if a value of the answer names a choice with an empty id by its
  label. -/
  emptied : f.kind.isMultiChoice = true → HoldsEmptyText n → (∀ w ∈ f.considered v, w.Rooted) →
    ∃ w ∈ f.considered v, f.NamesEmptyByLabel w

theorem retyped_of_multiChoice (hkind : f.kind.isMultiChoice = true)
    (h : (f.normalize v).outcome = .ok n) : f.Retyped v n := by
  rcases normalize_multiChoice_cases hkind h with rfl | ⟨ids, rfl, hids⟩
  · refine ⟨fun _ => rfl, nofun, ?_⟩
    rintro - ⟨texts, hnull, -⟩
    cases hnull
  have hsettled : ∀ id ∈ ids, f.slot.idOfText id = id := by
    intro id hid
    obtain ⟨w, -, hw⟩ := exists_of_forall₂ hids id hid
    exact hw.settled
  have hsame {texts : List String} (htuple : Value.tuple (ids.map .text) = .tuple (texts.map .text)) :
      ids = texts :=
    List.map_injective_iff.mpr (fun s t => Value.text.inj) (Value.tuple.inj htuple)
  have hagain := outcome_normalize_ids hkind hsettled
  refine ⟨fun hnone => ?_, fun _ texts htexts => ?_, ?_⟩
  · have hall : ids.filter (fun id => id ≠ "") = ids := by
      refine List.filter_eq_self.mpr fun id hid => decide_eq_true ?_
      rintro rfl
      exact hnone ⟨hkind, ids, rfl, hid⟩
    rw [hagain, hall]
  · rw [hagain, hsame htexts]
  · rintro - ⟨texts, htexts, hempty⟩ hrooted
    obtain ⟨w, hw, hnames⟩ := exists_of_forall₂ hids "" (hsame htexts ▸ hempty)
    exact ⟨w, hw, hnames.byLabel (hrooted w hw) (not_isBlank_of_mem_considered hw)⟩

theorem retyped_of_not_multiChoice (hkind : f.kind.isMultiChoice = false)
    (hstays : (f.normalize n).outcome = .ok n) : f.Retyped v n := by
  have hnot {P : Prop} (h : f.kind.isMultiChoice = true) : P := by
    rw [hkind] at h
    cases h
  exact ⟨fun _ => hstays, hnot, hnot⟩

/-- **A typed answer is typed once more** without any change but to empty ids. -/
theorem retyped_of_normalize (h : (f.normalize v).outcome = .ok n) : f.Retyped v n := by
  rcases f.kind.choice_number_or_free with hkind | hkind | hkind | hkind
  · exact retyped_of_multiChoice hkind h
  · refine retyped_of_not_multiChoice (FieldKind.isMultiChoice_of_isSingleChoice hkind) ?_
    rcases normalize_singleChoice_cases hkind h with rfl | rfl | ⟨id, rfl, hid⟩
    · rfl
    · rw [outcome_normalize_singleChoice hkind]
      rfl
    · rw [outcome_normalize_singleChoice hkind]
      show (if isBlank (.text id) = true then Except.ok (Value.text id)
        else (orFault (f.slot.choiceId (.text id))).map Value.text) = _
      have hagain : orFault (f.slot.choiceId (.text id)) = .ok id :=
        choiceId_eq_ok_iff.mpr ⟨id, rfl, hid.settled⟩
      rw [hagain]
      split_ifs <;> rfl
  · refine retyped_of_not_multiChoice (by rw [hkind]; rfl) ?_
    rcases normalize_of_number hkind n with hn | ⟨s, rfl, hn⟩
    · exact hn
    · rw [hn, numeral_of_no_number ((typed_of_normalize h).number hkind s rfl)]
  · have hn : (v.sequence?.map .tuple).getD v = n :=
      Except.ok.inj ((outcome_normalize_free hkind v).symm.trans h)
    refine retyped_of_not_multiChoice (FieldKind.not_choice_of_free hkind).1 ?_
    subst hn
    rw [outcome_normalize_free hkind]
    cases hitems : v.sequence? with
    | none =>
      show Except.ok ((v.sequence?.map Value.tuple).getD v) = .ok v
      rw [hitems]
      rfl
    | some items => rfl

end SubmissionRouting.Field
