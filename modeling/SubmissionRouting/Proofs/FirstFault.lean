import SubmissionRouting.Fault
import Mathlib.Data.List.Forall2

/-! # First faults

A sequence of steps fails with the first failure among them. Here this is said of the loops that
the library uses: the failure of a loop is the first failure of a step (`errorOf?_forM`), and a loop
that collects values gives all of them unless a step fails (`mapM_unlessFault`). Each of these values is
paired with the item that it comes from (`forall₂_of_mapM`). -/

namespace SubmissionRouting

variable {ε α β γ : Type}

/-- The error of a result. -/
def errorOf? : Except ε α → Option ε
  | .error e => some e
  | .ok _ => none

/-- A value, unless there is an error. -/
def unlessFault (e? : Option ε) (a : α) : Except ε α :=
  match e? with
  | some e => .error e
  | none => .ok a

theorem errorOf?_eq_some_iff {x : Except ε α} {e : ε} : errorOf? x = some e ↔ x = .error e := by
  cases x <;> simp [errorOf?]

theorem errorOf?_eq_none_iff {x : Except ε Unit} : errorOf? x = none ↔ x = .ok () := by
  cases x <;> simp [errorOf?]

theorem map_unlessFault (f : α → β) (e? : Option ε) (a : α) :
    (unlessFault e? a).map f = unlessFault e? (f a) := by
  cases e? <;> rfl

theorem exists_of_bind_eq_ok {x : Except ε α} {f : α → Except ε β} {b : β}
    (h : x >>= f = .ok b) : ∃ a, x = .ok a ∧ f a = .ok b := by
  cases x with
  | error e => cases h
  | ok a => exact ⟨a, rfl, h⟩

theorem exists_of_map_eq_ok {x : Except ε α} {f : α → β} {b : β} (h : x.map f = .ok b) :
    ∃ a, x = .ok a ∧ f a = b := by
  cases x with
  | error e => cases h
  | ok a => exact ⟨a, rfl, Except.ok.inj h⟩

theorem ok_bind (a : α) (f : α → Except ε β) : (Except.ok a >>= f) = f a := rfl

theorem liftM_ok (a : α) : (liftM (Except.ok a : Except Misuse α) : Result α) = .ok a := rfl

theorem orFault_eq_ok_iff {x : Except Misuse α} {a : α} : orFault x = .ok a ↔ x = .ok a := by
  cases x <;> simp [orFault]

theorem errorOf?_forM (f : α → Except ε Unit) (l : List α) :
    errorOf? (l.forM f) = l.findSome? fun a => errorOf? (f a) := by
  induction l with
  | nil => rfl
  | cons a l ih =>
    rw [List.findSome?_cons, ← ih]
    show errorOf? (f a >>= fun _ => l.forM f) = _
    cases f a <;> rfl

/-- A loop that carries a state fails with the failure of a step, at some state. -/
theorem exists_of_foldlM_eq_error {f : β → α → Except ε β} {l : List α} {b : β} {e : ε}
    (h : l.foldlM f b = .error e) : ∃ a ∈ l, ∃ b', f b' a = .error e := by
  induction l generalizing b with
  | nil => cases h
  | cons a l ih =>
    rw [List.foldlM_cons] at h
    cases hstep : f b a with
    | error e' =>
      rw [hstep] at h
      cases h
      exact ⟨a, List.mem_cons_self, b, hstep⟩
    | ok b' =>
      rw [hstep] at h
      obtain ⟨a', ha', hat⟩ := ih h
      exact ⟨a', List.mem_cons_of_mem a ha', hat⟩

theorem mapM_unlessFault {f : α → Except ε β} {fault : α → Option ε} {value : α → β} {l : List α}
    (h : ∀ a ∈ l, f a = unlessFault (fault a) (value a)) :
    l.mapM f = unlessFault (l.findSome? fault) (l.map value) := by
  induction l with
  | nil => rfl
  | cons a l ih =>
    rw [List.mapM_cons, h a (by simp), ih fun b hb => h b (by simp [hb]), List.findSome?_cons,
      List.map_cons]
    cases fault a with
    | some e => rfl
    | none => cases l.findSome? fault <;> rfl

theorem mapM_congr {f g : α → Except ε β} {l : List α} (h : ∀ a ∈ l, f a = g a) :
    l.mapM f = l.mapM g := by
  induction l with
  | nil => rfl
  | cons a l ih =>
    rw [List.mapM_cons, List.mapM_cons, h a (by simp), ih fun b hb => h b (by simp [hb])]

/-- **A loop that collects values** pairs each value with the item that it comes from. -/
theorem forall₂_of_mapM {f : α → Except ε β} {l : List α} {bs : List β} (h : l.mapM f = .ok bs) :
    List.Forall₂ (fun a b => f a = .ok b) l bs := by
  induction l generalizing bs with
  | nil => cases h; exact .nil
  | cons a l ih =>
    rw [List.mapM_cons] at h
    obtain ⟨b, hb, h⟩ := exists_of_bind_eq_ok h
    obtain ⟨rest, hrest, h⟩ := exists_of_bind_eq_ok h
    cases h
    exact .cons hb (ih hrest)

theorem exists_of_forall₂ {R : α → β → Prop} {l : List α} {bs : List β} (h : List.Forall₂ R l bs) :
    ∀ b ∈ bs, ∃ a ∈ l, R a b := by
  induction h with
  | nil => exact nofun
  | cons hab _ ih =>
    intro b hb
    rcases List.mem_cons.mp hb with rfl | hb
    · exact ⟨_, List.mem_cons_self, hab⟩
    · obtain ⟨a, ha, hat⟩ := ih b hb
      exact ⟨a, List.mem_cons_of_mem _ ha, hat⟩

theorem exists_mem_iff_of_forall₂ {R : α → β → Prop} {P : α → Prop} {Q : β → Prop} {l : List α}
    {bs : List β} (h : List.Forall₂ R l bs) (hR : ∀ a ∈ l, ∀ b, R a b → (P a ↔ Q b)) :
    (∃ a ∈ l, P a) ↔ ∃ b ∈ bs, Q b := by
  induction h with
  | nil => simp
  | cons hab _ ih =>
    rw [List.exists_mem_cons_iff, List.exists_mem_cons_iff, hR _ List.mem_cons_self _ hab,
      ih fun a ha => hR a (List.mem_cons_of_mem _ ha)]

theorem exists_of_mapM {f : α → Except ε β} {l : List α} {bs : List β}
    (h : l.mapM f = .ok bs) : ∀ b ∈ bs, ∃ a ∈ l, f a = .ok b :=
  exists_of_forall₂ (forall₂_of_mapM h)

theorem mapM_of_forall₂ {f : α → Except ε β} {l : List α} {bs : List β}
    (h : List.Forall₂ (fun a b => f a = .ok b) l bs) : l.mapM f = .ok bs := by
  induction h with
  | nil => rfl
  | cons hab _ ih => rw [List.mapM_cons, hab, ih]; rfl

theorem exists_mapM_of_forall₂ {f : α → Except ε β} {g : β → γ} {l : List α} {cs : List γ}
    (h : List.Forall₂ (fun a c => ∃ b, f a = .ok b ∧ g b = c) l cs) :
    ∃ bs, l.mapM f = .ok bs ∧ bs.map g = cs := by
  induction h with
  | nil => exact ⟨[], rfl, rfl⟩
  | cons hb _ ih =>
    obtain ⟨b, hf, rfl⟩ := hb
    obtain ⟨bs, hbs, rfl⟩ := ih
    exact ⟨b :: bs, by rw [List.mapM_cons, hf, hbs]; rfl, rfl⟩

theorem mapM_eq_ok_map {f : α → Except ε β} {g : α → β} {l : List α}
    (h : ∀ a ∈ l, f a = .ok (g a)) : l.mapM f = .ok (l.map g) :=
  mapM_of_forall₂ (List.forall₂_map_right_iff.mpr (List.forall₂_same.mpr h))

theorem findSome?_flatMap (f : α → List β) (g : β → Option γ) (l : List α) :
    (l.flatMap f).findSome? g = l.findSome? fun a => (f a).findSome? g := by
  simp only [← List.head?_filterMap, List.filterMap_flatMap, List.head?_flatMap]

theorem findSome?_filterMap (f : α → Option β) (g : β → Option γ) (l : List α) :
    (l.filterMap f).findSome? g = l.findSome? fun a => (f a).bind g := by
  simp only [← List.head?_filterMap, List.filterMap_filterMap]

theorem findSome?_congr {f g : α → Option β} {l : List α} (h : ∀ a ∈ l, f a = g a) :
    l.findSome? f = l.findSome? g := by
  induction l with
  | nil => rfl
  | cons a l ih =>
    rw [List.findSome?_cons, List.findSome?_cons, h a (by simp), ih fun b hb => h b (by simp [hb])]

end SubmissionRouting
