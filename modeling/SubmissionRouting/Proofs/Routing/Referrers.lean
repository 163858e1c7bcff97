import SubmissionRouting.Proofs.Routing.FormGraph

/-! # The forms that reach an id

The references of all forms are turned round (`Incoming`), so that one can go back from an id. What is
found on the way is put on a stack, and its top is taken up as long as there is one (`Pursuit`).

Two things are true throughout (`Pursuit.Sound`): what was found reaches the id, and a form that refers
to something found was found itself, unless the latter still waits on the stack. At the end nothing
waits, so all forms are found that reach the id (`mem_referrers_iff`). -/

namespace SubmissionRouting

open Relation

/-! ### The references turned round -/

namespace Incoming

section
variable {incoming : Incoming} {source target id x : String}

theorem sources_nil : Incoming.sources [] id = [] := rfl

theorem sources_cons {sources : List String} :
    Incoming.sources ((target, sources) :: incoming) id =
      if id = target then sources else incoming.sources id := by
  rw [Incoming.sources, List.lookup_cons]
  by_cases h : id = target
  · rw [if_pos h, beq_iff_eq.mpr h]; rfl
  · rw [if_neg h, beq_eq_false_iff_ne.mpr h]; rfl

theorem mem_sources_note :
    x ∈ (note source incoming target).sources id ↔
      x ∈ incoming.sources id ∨ x = source ∧ id = target := by
  induction incoming with
  | nil =>
    by_cases hid : id = target <;> simp [note, sources_cons, sources_nil, hid]
  | cons e rest ih =>
    obtain ⟨other, sources⟩ := e
    by_cases hother : target = other
    · subst hother
      by_cases hid : id = target <;> simp [note, sources_cons, hid, or_comm]
    · by_cases hid : id = other
      · subst hid
        simp [note, sources_cons, hother, Ne.symm hother]
      · simp [note, sources_cons, hother, hid, ih]

theorem mem_sources_foldl_note {ids : List String} :
    x ∈ (ids.foldl (note source) incoming).sources id ↔
      x ∈ incoming.sources id ∨ x = source ∧ id ∈ ids := by
  induction ids generalizing incoming with
  | nil => simp
  | cons target ids ih => rw [List.foldl_cons, ih, mem_sources_note, List.mem_cons]; tauto

theorem mem_sources_ofForms {forms : List Form} :
    x ∈ (ofForms forms).sources id ↔ Mentions forms x id := by
  have hfold : ∀ incoming : Incoming,
      x ∈ (forms.foldl (fun incoming f => f.referenceIds.foldl (note f.id) incoming)
        incoming).sources id ↔ x ∈ incoming.sources id ∨ Mentions forms x id := by
    induction forms with
    | nil => simp [Mentions]
    | cons f forms ih =>
      intro incoming
      rw [List.foldl_cons, ih, mem_sources_foldl_note, or_assoc]
      refine or_congr_right ?_
      simp only [Mentions, List.mem_cons, exists_eq_or_imp, eq_comm (a := x)]
  rw [ofForms, hfold, sources_nil]
  simp

end

end Incoming

/-! ### The pursuit -/

namespace Pursuit

section
variable {incoming : Incoming} {p : Pursuit} {ids : List String} {id x : String}

@[simp] theorem exhaust_nil {found : List String} : exhaust incoming ⟨found, []⟩ = found := by
  rw [exhaust]

@[simp] theorem exhaust_cons {found stack : List String} :
    exhaust incoming ⟨found, id :: stack⟩ =
      exhaust incoming ((incoming.sources id).foldl find ⟨found, stack⟩) := by
  rw [exhaust]

theorem mem_found_foldl : x ∈ (ids.foldl find p).found ↔ x ∈ p.found ∨ x ∈ ids := by
  induction ids generalizing p with
  | nil => simp
  | cons id ids ih =>
    rw [List.foldl_cons, ih, List.mem_cons, ← or_assoc]
    refine or_congr_left ?_
    unfold find
    split
    · next hid => exact ⟨Or.inl, fun hx => hx.elim (fun hx => hx) fun hx => hx ▸ hid⟩
    · simp only [List.mem_cons, or_comm]

/-- What is found for the first time waits. -/
theorem mem_stack_foldl :
    x ∈ (ids.foldl find p).stack ↔ x ∈ p.stack ∨ x ∈ ids ∧ x ∉ p.found := by
  induction ids generalizing p with
  | nil => simp
  | cons id ids ih =>
    rw [List.foldl_cons, ih]
    unfold find
    split
    · next hid =>
      simp only [List.mem_cons]
      constructor
      · rintro (h | ⟨h, hnew⟩)
        · exact Or.inl h
        · exact Or.inr ⟨Or.inr h, hnew⟩
      · rintro (h | ⟨rfl | h, hnew⟩)
        · exact Or.inl h
        · exact absurd hid hnew
        · exact Or.inr ⟨h, hnew⟩
    · next hid =>
      simp only [List.mem_cons, not_or]
      by_cases hx : x = id
      · simp [hx, hid]
      · simp [hx]

/-- What was found is reached, and what is reached over one more reference was found too, unless it
is still to be taken up. -/
structure Sound (incoming : Incoming) (start : String) (p : Pursuit) : Prop where
  found : ∀ x ∈ p.found, TransGen (fun x y => x ∈ incoming.sources y) x start
  stack : ∀ x ∈ p.stack, x = start ∨ x ∈ p.found
  covers : ∀ y, y = start ∨ y ∈ p.found → y ∈ p.stack ∨ incoming.sources y ⊆ p.found

theorem sound_start : Sound incoming id ⟨[], [id]⟩ where
  found := nofun
  stack x hx := Or.inl (List.mem_singleton.mp hx)
  covers y hy := by
    rcases hy with rfl | hy
    · exact Or.inl List.mem_cons_self
    · cases hy

theorem Sound.step {start : String} {found stack : List String}
    (h : Sound incoming start ⟨found, id :: stack⟩) :
    Sound incoming start ((incoming.sources id).foldl find ⟨found, stack⟩) := by
  have hid : id = start ∨ id ∈ found := h.stack id List.mem_cons_self
  constructor
  case found =>
    intro x hx
    rcases mem_found_foldl.mp hx with hx | hx
    · exact h.found x hx
    · rcases hid with rfl | hid
      · exact TransGen.single hx
      · exact TransGen.head hx (h.found id hid)
  case stack =>
    intro x hx
    rw [mem_found_foldl]
    rcases mem_stack_foldl.mp hx with hx | ⟨hx, -⟩
    · exact (h.stack x (List.mem_cons_of_mem id hx)).imp_right Or.inl
    · exact Or.inr (Or.inr hx)
  case covers =>
    intro y hy
    rw [mem_stack_foldl]
    have hgrows : found ⊆ ((incoming.sources id).foldl find ⟨found, stack⟩).found :=
      fun x hx => mem_found_foldl.mpr (Or.inl hx)
    by_cases hold : y = start ∨ y ∈ found
    · rcases h.covers y hold with hwaits | hdone
      · rcases List.mem_cons.mp hwaits with rfl | hwaits
        · exact Or.inr fun x hx => mem_found_foldl.mpr (Or.inr hx)
        · exact Or.inl (Or.inl hwaits)
      · exact Or.inr fun x hx => hgrows (hdone hx)
    · rw [not_or] at hold
      rcases hy with hy | hy
      · exact absurd hy hold.1
      · rcases mem_found_foldl.mp hy with hy | hy
        · exact absurd hy hold.2
        · exact Or.inl (Or.inr ⟨hy, hold.2⟩)

/-- Where nothing waits, all is found that is reached. -/
theorem Sound.mem_found_iff {start : String} {found : List String}
    (h : Sound incoming start ⟨found, []⟩) :
    x ∈ found ↔ TransGen (fun x y => x ∈ incoming.sources y) x start := by
  have hclosed : ∀ y, y = start ∨ y ∈ found → incoming.sources y ⊆ found :=
    fun y hy => (h.covers y hy).resolve_left List.not_mem_nil
  refine ⟨h.found x, fun hreach => ?_⟩
  induction hreach using TransGen.head_induction_on with
  | single hx => exact hclosed start (Or.inl rfl) hx
  | head hxy _ ih => exact hclosed _ (Or.inr ih) hxy

theorem mem_exhaust_iff {start : String} (h : Sound incoming start p) :
    x ∈ exhaust incoming p ↔ TransGen (fun x y => x ∈ incoming.sources y) x start := by
  induction p using exhaust.induct incoming with
  | case1 p hnone =>
    obtain ⟨found, stack⟩ := p
    cases hnone
    rw [exhaust_nil]
    exact h.mem_found_iff
  | case2 p id stack hsome ih =>
    obtain ⟨found, _⟩ := p
    cases hsome
    rw [exhaust_cons]
    exact ih h.step

end

end Pursuit

/-- **The pursuit finds all forms that reach an id.** -/
theorem mem_referrers_iff {forms : List Form} {id x : String} :
    x ∈ referrers forms id ↔ TransGen (Mentions forms) x id := by
  have hedges : (fun x y => x ∈ (Incoming.ofForms forms).sources y) = Mentions forms := by
    funext x y
    exact propext Incoming.mem_sources_ofForms
  rw [referrers, Pursuit.mem_exhaust_iff Pursuit.sound_start, hedges]

end SubmissionRouting
