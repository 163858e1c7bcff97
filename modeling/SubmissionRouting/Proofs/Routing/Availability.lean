import SubmissionRouting.Store
import SubmissionRouting.Proofs.Routing.CycleSearch
import SubmissionRouting.Proofs.Routing.Referrers

/-! # The references that can be added

The references that are offered to a form are those that are safe (`SafeReference`): to another form
of the same owner that it does not use yet and that does not reach it.

A safe reference leads to a form that does not reach the one that has it. So no cycle is closed by
adding such references, even many at once (`findReferenceCycle_replaced`). -/

namespace SubmissionRouting

open Relation

/-! ### Safe references -/

/-- A form can refer to another one: they have the same owner, it has no route with the other one's
id, and no references lead from the other one to it. -/
structure SafeReference (forms : List Form) (f g : Form) : Prop where
  other : g.id ≠ f.id
  sameTeam : g.isTeamForm ∨ f.isTeamForm → g.team.same f.team
  sameUser : ¬ g.isTeamForm → ¬ f.isTeamForm → g.user.same f.user
  unused : ∀ r ∈ f.routes, r.id ≠ g.id
  unreaching : ¬ TransGen (Leads forms) g.id f.id

theorem Form.sameOwner_iff (f g : Form) :
    g.sameOwner f = true ↔
      (g.isTeamForm ∨ f.isTeamForm → g.team.same f.team) ∧
        (¬ g.isTeamForm → ¬ f.isTeamForm → g.user.same f.user) := by
  unfold Form.sameOwner
  cases g.isTeamForm <;> cases f.isTeamForm <;> simp

section
variable {forms : List Form} {f g : Form}

theorem isAvailableTo_iff (hd : (forms.map (·.id)).Nodup) :
    g.isAvailableTo f (referrers forms f.id) = true ↔ SafeReference forms f g := by
  have hgraph : Mentions forms = Leads forms := by
    funext a b
    exact propext (leads_iff_of_nodup hd).symm
  have hunused : (f.routes.any fun r => r.id == g.id) = false ↔ ∀ r ∈ f.routes, r.id ≠ g.id := by
    simp only [List.any_eq_false, beq_iff_eq, ne_eq]
  have hreach : (referrers forms f.id).contains g.id = false ↔
      ¬ TransGen (Leads forms) g.id f.id := by
    rw [← hgraph, ← mem_referrers_iff, ← List.contains_iff_mem, Bool.not_eq_true]
  simp only [Form.isAvailableTo, Bool.and_eq_true, Bool.not_eq_true', bne_iff_ne, hunused, hreach,
    Form.sameOwner_iff]
  constructor
  · rintro ⟨⟨⟨hother, hteam, huser⟩, hunused⟩, hun⟩
    exact ⟨hother, hteam, huser, hunused, hun⟩
  · rintro ⟨hother, hteam, huser, hunused, hun⟩
    exact ⟨⟨⟨hother, hteam, huser⟩, hunused⟩, hun⟩

theorem mem_availableRouters_iff (hd : (forms.map (·.id)).Nodup) {r : RouterReference} :
    r ∈ availableRouters f forms ↔ ∃ g ∈ forms, SafeReference forms f g ∧ g.reference = r := by
  simp only [availableRouters, List.mem_map, List.mem_filter, isAvailableTo_iff hd, and_assoc]

/-! ### Adding references -/

/-- A form with references added after its routes. -/
def Form.withReferences (f : Form) (added : List RouterReference) : Form :=
  { f with routes := f.routes ++ added.map .reference }

@[simp] theorem Form.id_withReferences (f : Form) (added : List RouterReference) :
    (f.withReferences added).id = f.id := rfl

theorem Form.referenceIds_withReferences (f : Form) (added : List RouterReference) :
    (f.withReferences added).referenceIds = f.referenceIds ++ added.map (·.id) := by
  have hadded : (added.map Route.reference).filterMap Route.reference? = added := by
    rw [List.filterMap_map]
    exact List.filterMap_some
  rw [Form.referenceIds, Form.withReferences, List.filterMap_append, hadded, List.map_append]
  rfl

theorem map_id_replaced (forms : List Form) (f : Form) :
    (FormStore.replaced forms f).map (·.id) = forms.map (·.id) := by
  rw [FormStore.replaced, List.map_map]
  refine List.map_congr_left fun g _ => ?_
  rw [Function.comp_apply]
  by_cases h : g.id = f.id <;> simp [h]

theorem leads_replaced (hd : (forms.map (·.id)).Nodup) (hf : f ∈ forms)
    {added : List RouterReference} {a b : String}
    (h : Leads (FormStore.replaced forms (f.withReferences added)) a b) :
    Leads forms a b ∨ a = f.id ∧ ∃ r ∈ added, r.id = b := by
  have hd' : ((FormStore.replaced forms (f.withReferences added)).map (·.id)).Nodup := by
    rw [map_id_replaced]; exact hd
  obtain ⟨g', hg', rfl, hb⟩ := (leads_iff_of_nodup hd').mp h
  obtain ⟨g, hg, rfl⟩ := List.mem_map.mp hg'
  by_cases hid : g.id = f.id
  · rw [if_pos (by simpa using hid)] at hb ⊢
    rw [Form.referenceIds_withReferences, List.mem_append] at hb
    rcases hb with hb | hb
    · exact Or.inl ((leads_iff_of_nodup hd).mpr ⟨f, hf, rfl, hb⟩)
    · exact Or.inr ⟨rfl, List.mem_map.mp hb⟩
  · rw [if_neg (by simpa using hid)] at hb ⊢
    exact Or.inl ((leads_iff_of_nodup hd).mpr ⟨g, hg, rfl, hb⟩)

/-- **No cycle is closed by adding references that are offered**, however many. -/
theorem findReferenceCycle_replaced (hd : (forms.map (·.id)).Nodup) (hf : f ∈ forms)
    (hnone : findReferenceCycle forms = none) {added : List RouterReference}
    (hadded : ∀ r ∈ added, r ∈ availableRouters f forms) :
    findReferenceCycle (FormStore.replaced forms (f.withReferences added)) = none := by
  rw [findReferenceCycle_eq_none_iff] at hnone ⊢
  refine Acyclic.of_added (fun a b => leads_replaced hd hf) hnone ?_
  rintro w ⟨r, hr, rfl⟩ hreach
  obtain ⟨g, -, hsafe, rfl⟩ := (mem_availableRouters_iff hd).mp (hadded r hr)
  rcases reflTransGen_iff_eq_or_transGen.mp hreach with heq | hreach
  · exact hsafe.other heq.symm
  · exact hsafe.unreaching hreach

open Classical in
/-- **The references that are offered are the safe ones**, and adding them closes no cycle. -/
theorem availableRouters_safe (hd : (forms.map (·.id)).Nodup) (hf : f ∈ forms) :
    availableRouters f forms =
      (forms.filter fun g => SafeReference forms f g).map Form.reference ∧
    (findReferenceCycle forms = none → ∀ added, (∀ r ∈ added, r ∈ availableRouters f forms) →
      findReferenceCycle (FormStore.replaced forms (f.withReferences added)) = none) := by
  refine ⟨?_, fun hnone added hadded => findReferenceCycle_replaced hd hf hnone hadded⟩
  rw [availableRouters]
  congr 1
  refine List.filter_congr fun g _ => ?_
  rw [Bool.eq_iff_iff, isAvailableTo_iff hd, decide_eq_true_iff]

/-- A form, one that can be added to it, and one that refers to it. -/
theorem availableRouters_three_forms :
    let form (id : String) (ids : List String) : Form :=
      ⟨id, .null, .null, [], ids.map fun id => .reference ⟨id, .null, .null⟩, .text "t", .null⟩
    let forms := [form "a" [], form "b" [], form "c" ["a"]]
    availableRouters (form "a" []) forms = [⟨"b", .null, .null⟩] ∧
      findReferenceCycle (FormStore.replaced forms (form "a" ["b"])) = none := by
  intro form forms
  have hd : (forms.map (·.id)).Nodup := by decide
  have hf : form "a" [] ∈ forms := List.mem_cons_self
  have hreferrers : referrers forms "a" = ["c"] := by
    simp [referrers, Incoming.ofForms, Incoming.note, Incoming.sources, Pursuit.find, forms, form,
      Form.referenceIds, Route.reference?, List.lookup_cons]
  have hoffered : availableRouters (form "a" []) forms = [⟨"b", .null, .null⟩] := by
    rw [availableRouters, show (form "a" []).id = "a" from rfl, hreferrers]
    rfl
  have hnone : findReferenceCycle forms = none := by
    simp [findReferenceCycle, searchFrom, explore_nil, explore_of_visited, Search.leave, forms, form,
      nextIds, lastForm?, Form.referenceIds, Route.reference?, pure, bind, Except.pure, Except.bind]
  refine ⟨hoffered, (availableRouters_safe hd hf).2 hnone [⟨"b", .null, .null⟩] fun r hr => ?_⟩
  rw [hoffered]
  exact hr

end

end SubmissionRouting
