import SubmissionRouting.Routing.References
import SubmissionRouting.Proofs.Routing.ReferenceGraph

/-! # The graph of forms

The references of a list of forms make a graph on ids: an id leads to the ids that the last form with
that id refers to, and an id that is no form's leads nowhere (`Leads`). A `Circuit` is a path that
comes back to its start and meets no other id twice. Every circuit shows that the graph is not
`Acyclic` (`Circuit.not_acyclic`).

If no two forms have the same id, it does not matter that the last one counts
(`leads_iff_of_nodup`). Edges that lead from one id to ids that do not reach it close no circuit
(`Acyclic.of_added`). -/

namespace SubmissionRouting

open Relation

/-! ### Circuits -/

/-- No id is reached from itself. -/
def Acyclic (E : String → String → Prop) : Prop := ∀ x, ¬ TransGen E x x

/-- A path along edges that ends where it starts and has no other id twice. -/
structure Circuit (E : String → String → Prop) (path : List String) : Prop where
  long : 2 ≤ path.length
  closed : path.head? = path.getLast?
  distinct : path.dropLast.Nodup
  edges : path.IsChain E

theorem Circuit.not_acyclic {E : String → String → Prop} {path : List String}
    (h : Circuit E path) : ¬ Acyclic E := by
  intro hac
  obtain ⟨hlong, hclosed, -, hedges⟩ := h
  match path with
  | [] | [_] => simp at hlong
  | x :: y :: rest =>
    have hlast : (y :: rest).getLast? = some x := by
      rw [List.head?_cons, List.getLast?_cons_cons] at hclosed
      exact hclosed.symm
    rw [← List.dropLast_append_getLast? x hlast] at hedges
    exact hac x (transGen_of_isChain hedges)

section
variable {E E' : String → String → Prop} {v x y : String} {new : String → Prop}
  (hadded : ∀ a b, E' a b → E a b ∨ a = v ∧ new b)
include hadded

/-- What reaches an id over edges that are partly added at this id also reaches it without them. -/
theorem reflTransGen_of_added (h : ReflTransGen E' x v) : ReflTransGen E x v := by
  induction h using ReflTransGen.head_induction_on with
  | refl => exact ReflTransGen.refl
  | head hab _ ih =>
    rcases hadded _ _ hab with hold | ⟨rfl, -⟩
    · exact ReflTransGen.head hold ih
    · exact ReflTransGen.refl

theorem transGen_of_added (h : TransGen E' x y) :
    TransGen E x y ∨ ∃ w, new w ∧ ReflTransGen E' x v ∧ ReflTransGen E' w y := by
  induction h with
  | single hab =>
    rcases hadded _ _ hab with hold | ⟨rfl, hw⟩
    · exact Or.inl (TransGen.single hold)
    · exact Or.inr ⟨_, hw, ReflTransGen.refl, ReflTransGen.refl⟩
  | tail hxb hbc ih =>
    rcases ih with hold | ⟨w, hw, hxv, hwb⟩
    · rcases hadded _ _ hbc with hlast | ⟨rfl, hw⟩
      · exact Or.inl (hold.tail hlast)
      · exact Or.inr ⟨_, hw, hxb.to_reflTransGen, ReflTransGen.refl⟩
    · exact Or.inr ⟨w, hw, hxv, hwb.tail hbc⟩

/-- **Edges from an id to ids that do not reach it close no circuit.** -/
theorem Acyclic.of_added (hac : Acyclic E) (hnew : ∀ w, new w → ¬ ReflTransGen E w v) :
    Acyclic E' := by
  intro x hcycle
  rcases transGen_of_added hadded hcycle with hold | ⟨w, hw, hxv, hwx⟩
  · exact hac x hold
  · exact hnew w hw (reflTransGen_of_added hadded (hwx.trans hxv))

end

/-! ### Edges -/

/-- The last form with an id refers to another id. -/
def Leads (forms : List Form) (a b : String) : Prop :=
  ∃ f, lastForm? forms a = some f ∧ b ∈ f.referenceIds

/-- Some form with an id refers to another id. -/
def Mentions (forms : List Form) (a b : String) : Prop :=
  ∃ f ∈ forms, f.id = a ∧ b ∈ f.referenceIds

section
variable {forms : List Form} {a b : String}

theorem mem_nextIds_iff : b ∈ nextIds forms a ↔ Leads forms a b := by
  unfold nextIds Leads
  cases lastForm? forms a with
  | none => simp
  | some f => simp

theorem Leads.mem_ids (h : Leads forms a b) : a ∈ forms.map (·.id) := by
  obtain ⟨f, hf, -⟩ := h
  exact mem_ids_of_lastForm? hf

theorem mem_ids_of_transGen (h : TransGen (Leads forms) a b) : a ∈ forms.map (·.id) := by
  obtain ⟨c, hac, -⟩ := TransGen.head'_iff.mp h
  exact hac.mem_ids

/-- Where no id occurs twice, the last form with an id is the only one. -/
theorem lastForm?_eq_some_iff (hd : (forms.map (·.id)).Nodup) {f : Form} :
    lastForm? forms a = some f ↔ f ∈ forms ∧ f.id = a := by
  constructor
  · intro h
    exact ⟨by simpa using List.mem_of_find?_eq_some h, by simpa using List.find?_some h⟩
  · rintro ⟨hf, rfl⟩
    have hsome : (lastForm? forms f.id).isSome := by
      rw [lastForm?, List.find?_isSome]
      exact ⟨f, by simpa using hf, by simp⟩
    obtain ⟨g, hg⟩ := Option.isSome_iff_exists.mp hsome
    have hgmem : g ∈ forms := by simpa using List.mem_of_find?_eq_some hg
    have hgid : g.id = f.id := by simpa using List.find?_some hg
    rw [hg, List.inj_on_of_nodup_map hd hgmem hf hgid]

theorem leads_iff_of_nodup (hd : (forms.map (·.id)).Nodup) :
    Leads forms a b ↔ Mentions forms a b := by
  simp only [Leads, Mentions, lastForm?_eq_some_iff hd, and_assoc]

end

end SubmissionRouting
