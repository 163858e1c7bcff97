import SubmissionRouting.Form.Codec
import SubmissionRouting.Proofs.FirstFault
import SubmissionRouting.Proofs.Json.Arranged
import Mathlib.Logic.Relation

/-! # Parts of values

What stands in a value at any depth, keys and strands too, is a *part* of it (`Value.Part`), and so
is the value itself. A statement on all values is proved from the parts up (`Value.induction`,
`Part.induction`).

What is found under a key is a part, and so are the items of a value, unless it is a text
(`mem_inside_of_items`). The parts of a JSON value are JSON values (`IsJson.of_part`). -/

namespace SubmissionRouting.Value

open Relation

/-! ### Parts -/

/-- What stands directly in a value. -/
def inside : Value → List Value
  | list vs => vs
  | tuple vs => vs
  | set vs => vs
  | map es => es.flatMap fun e => [e.1, e.2]
  | knot strands _ => strands
  | _ => []

theorem mem_inside_map {es : List (Value × Value)} {w : Value} :
    w ∈ (map es).inside ↔ ∃ e ∈ es, w = e.1 ∨ w = e.2 := by
  simp [inside]

theorem sizeOf_lt_of_mem_inside {v w : Value} (h : w ∈ v.inside) : sizeOf w < sizeOf v := by
  cases v with
  | list vs | tuple vs | set vs =>
    have hlt : sizeOf w < sizeOf vs := List.sizeOf_lt_of_mem h
    simp
    omega
  | knot strands start =>
    have hlt : sizeOf w < sizeOf strands := List.sizeOf_lt_of_mem h
    simp
    omega
  | map es =>
    obtain ⟨⟨k, x⟩, he, hw⟩ := mem_inside_map.mp h
    have hlt : sizeOf (k, x) < sizeOf es := List.sizeOf_lt_of_mem he
    rcases hw with rfl | rfl <;> simp at hlt ⊢ <;> omega
  | _ => cases h

/-- Induction over values: what holds of a value once it holds of all that stands in it holds of
every value. -/
@[elab_as_elim]
theorem induction {motive : Value → Prop}
    (step : ∀ v, (∀ w ∈ v.inside, motive w) → motive v) (v : Value) : motive v :=
  step v fun w hw =>
    have : sizeOf w < sizeOf v := sizeOf_lt_of_mem_inside hw
    induction step w
termination_by sizeOf v

/-- The first value stands in the second at some depth, or is the second. -/
def Part (x v : Value) : Prop := ReflTransGen (fun v w => w ∈ v.inside) v x

namespace Part

theorem refl (v : Value) : Part v v := ReflTransGen.refl

theorem of_inside {x v w : Value} (hw : w ∈ v.inside) (h : Part x w) : Part x v := .head hw h

theorem trans {x w v : Value} (hx : Part x w) (hw : Part w v) : Part x v :=
  ReflTransGen.trans hw hx

theorem eq_or_inside {x v : Value} (h : Part x v) : x = v ∨ ∃ w ∈ v.inside, Part x w := by
  rcases ReflTransGen.cases_head h with h | ⟨w, hw, h⟩
  · exact .inl h.symm
  · exact .inr ⟨w, hw, h⟩

/-- Induction over values: what holds of a value once it holds of all its other parts holds of every
value. -/
theorem induction {motive : Value → Prop}
    (step : ∀ v, (∀ w ∈ v.inside, ∀ x, Part x w → motive x) → motive v) (v : Value) :
    motive v := by
  suffices h : ∀ x, Part x v → motive x from h v (Part.refl v)
  induction v using Value.induction with
  | step v ih =>
    intro x hx
    rcases hx.eq_or_inside with rfl | ⟨w, hw, hx⟩
    · exact step x ih
    · exact ih w hw x hx

end Part

/-! ### Parts by key and place -/

theorem mem_inside_of_member? {es : List (Value × Value)} {key : String} {x : Value}
    (h : member? es key = some x) : x ∈ (map es).inside := by
  obtain ⟨e, he, rfl⟩ := Option.map_eq_some_iff.mp h
  exact mem_inside_map.mpr ⟨e, List.mem_of_find?_eq_some he, .inr rfl⟩

theorem requiredIn_eq_ok_iff {es : List (Value × Value)} {key : String} {x : Value} :
    requiredIn es key = .ok x ↔ member? es key = some x := by
  unfold requiredIn
  cases member? es key <;> simp

theorem part_of_requiredIn {es : List (Value × Value)} {key : String} {x : Value}
    (h : requiredIn es key = .ok x) : Part x (map es) :=
  .of_inside (mem_inside_of_member? (requiredIn_eq_ok_iff.mp h)) (Part.refl x)

theorem memberD_cases (es : List (Value × Value)) (key : String) (default : Value) :
    memberD es key default = default ∨ memberD es key default ∈ (map es).inside := by
  unfold memberD
  cases h : member? es key with
  | none => exact .inl rfl
  | some x => exact .inr (mem_inside_of_member? h)

theorem mem_inside_of_items {v : Value} (hv : v.opened = v) {vs : List Value}
    (h : v.items = .ok vs) {x : Value} (hx : x ∈ vs) : x ∈ v.inside ∨ ∃ s, x = text s := by
  unfold items at h
  rw [hv] at h
  cases v with
  | list us => cases h; exact .inl hx
  | tuple us => cases h; exact .inl hx
  | set us => cases h; exact .inl hx
  | map es =>
    cases h
    obtain ⟨e, he, rfl⟩ := List.mem_map.mp hx
    exact .inl (mem_inside_map.mpr ⟨e, he, .inl rfl⟩)
  | text s =>
    cases h
    obtain ⟨c, -, rfl⟩ := List.mem_map.mp hx
    exact .inr ⟨_, rfl⟩
  | _ => cases h

theorem exists_item_of_eachItem {α : Type} {v : Value} {read : Value → Result α} {as : List α}
    (h : v.eachItem read = .ok as) :
    ∀ a ∈ as, ∃ vs x, v.items = .ok vs ∧ x ∈ vs ∧ read x = .ok a := by
  obtain ⟨vs, hvs, h⟩ := exists_of_bind_eq_ok h
  intro a ha
  obtain ⟨x, hx, hread⟩ := exists_of_mapM h a ha
  exact ⟨vs, x, orFault_eq_ok_iff.mp hvs, hx, hread⟩

/-! ### Parts of JSON values -/

theorem isJson_nil : (list []).IsJson := .list fun _ h => absurd h List.not_mem_nil

theorem isJson_record {l : List (String × Value)} (hkeys : (l.map (·.1)).Nodup)
    (hvalues : ∀ p ∈ l, p.2.IsJson) : (Value.map (l.map fun p => (text p.1, p.2))).IsJson := by
  refine .map ⟨fun e he => ?_, ?_⟩ fun e he => ?_
  · obtain ⟨p, -, rfl⟩ := List.mem_map.mp he
    exact ⟨p.1, rfl⟩
  · rw [List.map_map]
    exact hkeys
  · obtain ⟨p, hp, rfl⟩ := List.mem_map.mp he
    exact hvalues p hp

theorem IsJson.opened {v : Value} (h : v.IsJson) : v.opened = v := by
  cases h <;> rfl

theorem IsJson.of_inside {v : Value} (h : v.IsJson) : ∀ w ∈ v.inside, w.IsJson := by
  cases h with
  | list items => exact items
  | map keyed values =>
    intro w hw
    obtain ⟨e, he, hw⟩ := mem_inside_map.mp hw
    rcases hw with rfl | rfl
    · obtain ⟨s, hs⟩ := keyed.texts e he
      rw [hs]
      exact .text s
    · exact values e he
  | _ => exact List.forall_mem_nil _

theorem IsJson.of_map {es : List (Value × Value)} (h : (Value.map es).IsJson) :
    ∀ e ∈ es, e.2.IsJson := fun e he => h.of_inside e.2 (mem_inside_map.mpr ⟨e, he, .inr rfl⟩)

/-- **The parts of a JSON value are JSON values.** -/
theorem IsJson.of_part {v x : Value} (hv : v.IsJson) (h : Part x v) : x.IsJson := by
  induction h with
  | refl => exact hv
  | tail _ hx ih => exact ih.of_inside _ hx

theorem IsJson.member? {es : List (Value × Value)} {key : String} {x : Value}
    (h : ∀ e ∈ es, e.2.IsJson) (hx : member? es key = some x) : x.IsJson := by
  obtain ⟨e, he, rfl⟩ := Option.map_eq_some_iff.mp hx
  exact h e (List.mem_of_find?_eq_some he)

theorem IsJson.memberD {es : List (Value × Value)} {default : Value}
    (h : ∀ e ∈ es, e.2.IsJson) (key : String) (hd : default.IsJson) :
    (memberD es key default).IsJson := by
  unfold Value.memberD
  cases hx : Value.member? es key with
  | none => exact hd
  | some x => exact IsJson.member? h hx

theorem IsJson.eq_map_of_entries {v : Value} (hv : v.IsJson) {es : List (Value × Value)}
    (h : v.entries = .ok es) : v = .map es := by
  unfold Value.entries at h
  rw [hv.opened] at h
  cases hv with
  | map keyed values => cases h; rfl
  | _ => cases h

theorem IsJson.of_entries {v : Value} (hv : v.IsJson) {es : List (Value × Value)}
    (h : v.entries = .ok es) : ∀ e ∈ es, e.2.IsJson := by
  obtain rfl := hv.eq_map_of_entries h
  exact hv.of_map

theorem IsJson.of_requiredIn {es : List (Value × Value)} {key : String} {x : Value}
    (h : ∀ e ∈ es, e.2.IsJson) (hx : requiredIn es key = .ok x) : x.IsJson :=
  IsJson.member? h (requiredIn_eq_ok_iff.mp hx)

theorem IsJson.part_of_required {v x : Value} (hv : v.IsJson) {key : String}
    (h : v.required key = .ok x) : Part x v := by
  obtain ⟨es, hes, h⟩ := exists_of_bind_eq_ok h
  obtain rfl := hv.eq_map_of_entries hes
  exact part_of_requiredIn h

theorem IsJson.of_required {v x : Value} (hv : v.IsJson) {key : String}
    (h : v.required key = .ok x) : x.IsJson := hv.of_part (hv.part_of_required h)

theorem IsJson.of_items {v : Value} (hv : v.IsJson) {vs : List Value} (h : v.items = .ok vs) :
    ∀ x ∈ vs, x.IsJson := by
  intro x hx
  rcases mem_inside_of_items hv.opened h hx with hinside | ⟨s, rfl⟩
  · exact hv.of_inside x hinside
  · exact .text s

theorem IsJson.exists_of_eachItem {α : Type} {v : Value} (hv : v.IsJson)
    {read : Value → Result α} {as : List α} (h : v.eachItem read = .ok as) :
    ∀ a ∈ as, ∃ x : Value, x.IsJson ∧ read x = .ok a := by
  intro a ha
  obtain ⟨vs, x, hvs, hx, hread⟩ := exists_item_of_eachItem h a ha
  exact ⟨x, hv.of_items hvs x hx, hread⟩

end SubmissionRouting.Value
