import SubmissionRouting.Forwarding
import SubmissionRouting.Proofs.Response.Typed

/-! # Labels read back

An answer to a field with choices is handed on with labels in the place of ids. Where choices can be
told apart (`Distinguishable`), the label of a choice names this choice (`Field.idOfText_labelText`),
and so an answer that was typed, handed on and typed once more has not changed
(`Field.normalize_of_display`). A text that names no choice is handed on as it is, and comes back as
it is. -/

namespace SubmissionRouting

/-- Choices that can be told apart: no two have the same id or the same label, ids and labels are
texts that are not empty, and no label is the id of another choice. -/
structure Distinguishable (choices : List Choice) : Prop where
  ids : (choices.map (·.id)).Nodup
  id_ne : ∀ c ∈ choices, c.id ≠ ""
  labels : (choices.map (·.label)).Nodup
  texts : ∀ c ∈ choices, ∃ s, c.label = .text s ∧ s ≠ ""
  apart : ∀ c ∈ choices, ∀ d ∈ choices, c.label = .text d.id → c = d

/-! ### Choices by id and by label -/

section
variable {choices : List Choice} {c : Choice} {s : String}

theorem mem_and_id_of_choiceById? (h : choiceById? choices s = some c) : c ∈ choices ∧ c.id = s := by
  have hfind : choices.find? (fun d => d.id == s) = some c := h
  exact ⟨List.mem_of_find?_eq_some hfind, by simpa using List.find?_some hfind⟩

namespace Distinguishable

theorem choiceById?_empty (h : Distinguishable choices) : choiceById? choices "" = none := by
  cases hc : choiceById? choices "" with
  | none => rfl
  | some c =>
    obtain ⟨hmem, hid⟩ := mem_and_id_of_choiceById? hc
    exact absurd hid (h.id_ne c hmem)

theorem choiceByLabel?_empty (h : Distinguishable choices) :
    choiceByLabel? choices (.text "") = none := by
  refine List.find?_eq_none.mpr fun c hc hsame => ?_
  obtain ⟨s, hs, hne⟩ := h.texts c hc
  have hempty : c.label = .text "" := Value.same_text_right_iff.mp hsame
  exact hne (Value.text.inj (hs.symm.trans hempty))

theorem idOfText_empty {slot : Slot} (h : Distinguishable slot.choices) :
    slot.idOfText "" = "" := by
  unfold Slot.idOfText Slot.choice?
  rw [h.choiceById?_empty, h.choiceByLabel?_empty]
  rfl

theorem choiceByLabel?_label (h : Distinguishable choices) (hc : c ∈ choices)
    (hs : c.label = .text s) : choiceByLabel? choices (.text s) = some c := by
  have hself : c.label.same (.text s) = true := Value.same_text_right_iff.mpr hs
  have hfound : (choiceByLabel? choices (.text s)).isSome = true :=
    List.find?_isSome.mpr ⟨c, hc, hself⟩
  obtain ⟨d, hd⟩ := Option.isSome_iff_exists.mp hfound
  have hfind : choices.find? (fun e => e.label.same (.text s)) = some d := hd
  have hmem : d ∈ choices := List.mem_of_find?_eq_some hfind
  have hsame : d.label.same (.text s) = true := by simpa using List.find?_some hfind
  have hlabel : d.label = c.label := (Value.same_text_right_iff.mp hsame).trans hs.symm
  rw [hd, List.inj_on_of_nodup_map h.labels hmem hc hlabel]

/-- **The label of a choice names this choice.** As an id it could only name this choice, too. -/
theorem idOfText_label {slot : Slot} (h : Distinguishable slot.choices) (hc : c ∈ slot.choices)
    (hs : c.label = .text s) : slot.idOfText s = c.id := by
  unfold Slot.idOfText Slot.choice?
  cases hd : choiceById? slot.choices s with
  | none =>
    rw [h.choiceByLabel?_label hc hs]
    rfl
  | some d =>
    obtain ⟨hmem, hid⟩ := mem_and_id_of_choiceById? hd
    rw [h.apart c hc d hmem (by rw [hs, hid])]
    rfl

end Distinguishable

end

namespace Field

variable {f : Field} {id : String}

/-! ### The texts that are handed on -/

/-- The text that is handed on for an id: the label of the choice with this id, or the id itself. -/
def labelText (f : Field) (id : String) : String :=
  match choiceById? f.choices id with
  | some ⟨_, .text s⟩ => s
  | _ => id

theorem labelText_of_none (h : choiceById? f.choices id = none) : f.labelText id = id := by
  unfold labelText
  rw [h]

theorem labelText_of_some {c : Choice} {s : String} (h : choiceById? f.choices id = some c)
    (hs : c.label = .text s) : f.labelText id = s := by
  obtain ⟨_, label⟩ := c
  obtain rfl : label = .text s := hs
  unfold labelText
  rw [h]

section
variable (hchoices : Distinguishable f.choices)
include hchoices

theorem choiceLabel_text (id : String) :
    f.choiceLabel (.text id) = .ok (.text (f.labelText id)) := by
  unfold choiceLabel
  rw [Value.shown_text, ok_bind]
  cases hc : choiceById? f.choices id with
  | none => rw [labelText_of_none hc]; rfl
  | some c =>
    obtain ⟨s, hs, -⟩ := hchoices.texts c (mem_and_id_of_choiceById? hc).1
    rw [labelText_of_some hc hs, ← hs]
    rfl

theorem labelText_ne_empty (hid : id ≠ "") : f.labelText id ≠ "" := by
  cases hc : choiceById? f.choices id with
  | none => rwa [labelText_of_none hc]
  | some c =>
    obtain ⟨s, hs, hne⟩ := hchoices.texts c (mem_and_id_of_choiceById? hc).1
    rwa [labelText_of_some hc hs]

/-- **What is handed on for an id names this id**, if the id does. -/
theorem idOfText_labelText (hid : f.slot.idOfText id = id) :
    f.slot.idOfText (f.labelText id) = id := by
  cases hc : choiceById? f.choices id with
  | none => rwa [labelText_of_none hc]
  | some c =>
    obtain ⟨hmem, hcid⟩ := mem_and_id_of_choiceById? hc
    obtain ⟨s, hs, -⟩ := hchoices.texts c hmem
    have hslot : Distinguishable f.slot.choices := hchoices
    rw [labelText_of_some hc hs, hslot.idOfText_label hmem hs, hcid]

theorem ne_empty_of_names {v : Value} (h : f.Names v id) (hv : v.Rooted)
    (hblank : isBlank v = false) : id ≠ "" := by
  rintro rfl
  obtain ⟨s, -, -, c, hc, hempty⟩ := h.byLabel hv hblank
  exact hchoices.id_ne c (List.mem_of_find?_eq_some hc) hempty

/-! ### There and back -/

theorem display_ids (hkind : f.kind.isMultiChoice = true) (ids : List String) :
    f.display (.tuple (ids.map .text)) = .ok (.list ((ids.map f.labelText).map .text)) := by
  have hkept : (ids.map Value.text).filter (fun w => !w.isNull) = ids.map .text :=
    List.filter_eq_self.mpr fun w hw => by
      obtain ⟨id, -, rfl⟩ := List.mem_map.mp hw
      rfl
  have hlabels : f.choiceLabels (.tuple (ids.map .text)) =
      .ok ((ids.map f.labelText).map .text) := by
    unfold choiceLabels
    show ((ids.map Value.text).filter fun w => !w.isNull).mapM f.choiceLabel = _
    rw [hkept, List.mapM_map, List.map_map]
    exact mapM_eq_ok_map fun id _ => choiceLabel_text hchoices id
  unfold display
  rw [if_pos hkind, hlabels]
  rfl

theorem display_id (hkind : f.kind.isSingleChoice = true) (id : String) :
    f.display (.text id) = .ok (.text (f.labelText id)) := by
  have hlabels : f.choiceLabels (.text id) = .ok [.text (f.labelText id)] := by
    unfold choiceLabels
    show [Value.text id].mapM f.choiceLabel = _
    rw [List.mapM_cons, choiceLabel_text hchoices id]
    rfl
  unfold display
  rw [FieldKind.isMultiChoice_of_isSingleChoice hkind, hkind, hlabels]
  rfl

/-- **Several choices come back**, an empty answer as such. -/
theorem normalize_of_display_ids (hkind : f.kind.isMultiChoice = true) {ids : List String}
    (hids : ∀ id ∈ ids, f.slot.idOfText id = id ∧ id ≠ "") :
    (f.normalize (.list ((ids.map f.labelText).map .text))).outcome =
      .ok (.tuple (ids.map .text)) := by
  have hfilled : (ids.map f.labelText).filter (fun s => s ≠ "") = ids.map f.labelText :=
    List.filter_eq_self.mpr fun s hs => by
      obtain ⟨id, hid, rfl⟩ := List.mem_map.mp hs
      exact decide_eq_true (labelText_ne_empty hchoices (hids id hid).2)
  have hback : (ids.map f.labelText).map f.slot.idOfText = ids := by
    rw [List.map_map]
    exact (List.map_congr_left fun id hid => idOfText_labelText hchoices (hids id hid).1).trans
      (List.map_id ids)
  rw [outcome_normalize_texts hkind rfl rfl, hfilled, hback]

/-- **One choice comes back**, the empty text as such. -/
theorem normalize_of_display_id (hkind : f.kind.isSingleChoice = true)
    (hid : f.slot.idOfText id = id) :
    (f.normalize (.text (f.labelText id))).outcome = .ok (.text id) := by
  rw [outcome_normalize_singleChoice hkind]
  show (if isBlank (.text (f.labelText id)) = true then Except.ok (Value.text (f.labelText id))
    else (orFault (f.slot.choiceId (.text (f.labelText id)))).map Value.text) = _
  by_cases hempty : id = ""
  · subst hempty
    rw [labelText_of_none hchoices.choiceById?_empty]
    rfl
  · have hback : orFault (f.slot.choiceId (.text (f.labelText id))) = .ok id :=
      choiceId_eq_ok_iff.mpr ⟨_, rfl, idOfText_labelText hchoices hid⟩
    rw [isBlank_text (labelText_ne_empty hchoices hempty), hback]
    rfl

end

/-- **Labels read back as the choices that they were put for.** A typed answer to a field whose
choices can be told apart can be handed on, and what is handed on is typed as the answer again,
whatever the answer was before it was typed: ids, labels, texts that name no choice, or nothing to be
considered. -/
theorem normalize_of_display (hkind : f.kind.hasChoices = true)
    (hchoices : Distinguishable f.choices) {v n : Value}
    (hrooted : ∀ w ∈ f.considered v, w.Rooted) (h : (f.normalize v).outcome = .ok n)
    (hn : n ≠ .null) :
    ∃ shown, f.display n = .ok shown ∧ (f.normalize shown).outcome = .ok n := by
  rcases Bool.or_eq_true_iff.mp hkind with hsingle | hmulti
  · have hslot : Distinguishable f.slot.choices := hchoices
    rcases normalize_singleChoice_cases hsingle h with rfl | rfl | ⟨id, rfl, hnames⟩
    · exact absurd rfl hn
    · exact ⟨_, display_id hchoices hsingle "",
        normalize_of_display_id hchoices hsingle hslot.idOfText_empty⟩
    · exact ⟨_, display_id hchoices hsingle id,
        normalize_of_display_id hchoices hsingle hnames.settled⟩
  · rcases normalize_multiChoice_cases hmulti h with rfl | ⟨ids, rfl, hids⟩
    · exact absurd rfl hn
    · refine ⟨_, display_ids hchoices hmulti ids,
        normalize_of_display_ids hchoices hmulti fun id hid => ?_⟩
      obtain ⟨w, hw, hnames⟩ := exists_of_forall₂ hids id hid
      exact ⟨hnames.settled,
        ne_empty_of_names hchoices hnames (hrooted w hw) (not_isBlank_of_mem_considered hw)⟩

/-- A field of colours. One of them has its id as its label. -/
def colours (kind : FieldKind) : Field :=
  ⟨.text "c", .text "Colour", kind, .text "", [⟨"r", .text "Red"⟩, ⟨"g", .text "g"⟩]⟩

theorem distinguishable_colours (kind : FieldKind) : Distinguishable (colours kind).choices where
  ids := by simp [colours]
  id_ne := by simp [colours]
  labels := by simp [colours]
  texts := by simp [colours]
  apart := by simp [colours]

/-- A label, an id that is a label, a text and a number that name no choice, and nothing: the label
and the id are handed on as labels and come back as ids, the others as their texts. One choice may also
be left empty. -/
theorem normalize_of_display_colours :
    (let n : Value := .tuple [.text "r", .text "g", .text "blue", .text "7"]
     ((colours .checkbox).normalize
        (.list [.text "Red", .null, .text "g", .text "blue", .int 7])).outcome = .ok n ∧
      ∃ shown, (colours .checkbox).display n = .ok shown ∧
        shown = .list [.text "Red", .text "g", .text "blue", .text "7"] ∧
        ((colours .checkbox).normalize shown).outcome = .ok n) ∧
    ∃ shown, (colours .select).display (.text "") = .ok shown ∧ shown = .text "" ∧
      ((colours .select).normalize shown).outcome = .ok (.text "") := by
  constructor
  · intro n
    have hn : ((colours .checkbox).normalize
        (.list [.text "Red", .null, .text "g", .text "blue", .int 7])).outcome = .ok n := rfl
    have hrooted : ∀ w ∈ (colours .checkbox).considered
        (.list [.text "Red", .null, .text "g", .text "blue", .int 7]), w.Rooted := by
      intro w hw
      have hmem : w ∈ [.text "Red", .text "g", .text "blue", .int 7] := hw
      simp only [List.mem_cons, List.not_mem_nil, or_false] at hmem
      rcases hmem with rfl | rfl | rfl | rfl <;> trivial
    obtain ⟨shown, hshown, hback⟩ :=
      normalize_of_display rfl (distinguishable_colours _) hrooted hn nofun
    refine ⟨hn, shown, hshown, ?_, hback⟩
    cases hshown
    rfl
  · obtain ⟨shown, hshown, hback⟩ :=
      normalize_of_display (v := .text "") rfl (distinguishable_colours .select) nofun rfl nofun
    refine ⟨shown, hshown, ?_, hback⟩
    cases hshown
    rfl

end Field

end SubmissionRouting
