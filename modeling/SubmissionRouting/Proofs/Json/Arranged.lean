import SubmissionRouting.Proofs.Json.Sorting
import SubmissionRouting.Proofs.Value.Keys
import Mathlib.Data.List.Perm.Basic

/-! # JSON values

A JSON value is built from scalars, lists, and mappings whose keys are texts, no two the same
(`Value.IsJson`). The order of the entries of a mapping is of no account in JSON: two values that
differ in it only are the same once all their entries are sorted (`Value.arranged`), and under a text
the same stands in both, up to the order of entries again (`member?_of_arranged`). -/

namespace SubmissionRouting

/-! ### Text keys -/

/-- The text that a key is. -/
def Value.keyName : Value → String
  | .text s => s
  | _ => ""

/-- The keys of entries are texts, no two the same. -/
structure TextKeyed {α : Type} (es : List (Value × α)) : Prop where
  texts : ∀ e ∈ es, ∃ s, e.1 = .text s
  distinct : (es.map fun e => e.1.keyName).Nodup

section TextKeyed
variable {α β : Type} {es fs : List (Value × α)}

theorem TextKeyed.of_perm (h : TextKeyed es) (hperm : fs.Perm es) : TextKeyed fs :=
  ⟨fun e he => h.texts e (hperm.mem_iff.mp he),
    (hperm.map fun e => e.1.keyName).nodup_iff.mpr h.distinct⟩

theorem textKeyed_map_iff (f : α → β) :
    TextKeyed (es.map fun e => (e.1, f e.2)) ↔ TextKeyed es := by
  have hnames : ((es.map fun e => (e.1, f e.2)).map fun e => e.1.keyName) =
      es.map fun e => e.1.keyName := by rw [List.map_map]; rfl
  constructor
  · rintro ⟨htexts, hdistinct⟩
    rw [hnames] at hdistinct
    exact ⟨fun e he => htexts _ (List.mem_map_of_mem he), hdistinct⟩
  · rintro ⟨htexts, hdistinct⟩
    refine ⟨fun e he => ?_, by rw [hnames]; exact hdistinct⟩
    obtain ⟨e', he', rfl⟩ := List.mem_map.mp he
    exact htexts e' he'

theorem TextKeyed.tail {e : Value × α} (h : TextKeyed (e :: es)) : TextKeyed es :=
  ⟨fun x hx => h.texts x (List.mem_cons_of_mem e hx), (List.nodup_cons.mp h.distinct).2⟩

theorem TextKeyed.get?_eq_some_iff (h : TextKeyed es) {key : String} {a : α} :
    Mapping.get? es (.text key) = some a ↔ (Value.text key, a) ∈ es := by
  induction es with
  | nil => simp
  | cons e es ih =>
    obtain ⟨k, b⟩ := e
    obtain ⟨s, rfl⟩ := h.texts (k, b) List.mem_cons_self
    rw [Mapping.get?_cons, Value.alike_text, List.mem_cons, ← ih h.tail]
    by_cases hs : s = key
    · have hother : Mapping.get? es (.text key) ≠ some a := by
        intro hget
        have hmem := (ih h.tail).mp hget
        refine (List.nodup_cons.mp h.distinct).1 ?_
        exact List.mem_map.mpr ⟨(.text key, a), hmem, hs.symm⟩
      simp [hs, hother, eq_comm]
    · simp [hs, Ne.symm hs]

theorem TextKeyed.get?_perm (h : TextKeyed es) (hperm : fs.Perm es) (key : String) :
    Mapping.get? fs (.text key) = Mapping.get? es (.text key) := by
  refine Option.ext fun a => ?_
  rw [h.get?_eq_some_iff, (h.of_perm hperm).get?_eq_some_iff, hperm.mem_iff]

theorem map_get? (f : α → β) (es : List (Value × α)) (key : Value) :
    (Mapping.get? es key).map f = Mapping.get? (es.map fun e => (e.1, f e.2)) key := by
  induction es with
  | nil => rfl
  | cons e es ih =>
    unfold Mapping.get? at ih ⊢
    rw [List.map_cons, List.find?_cons, List.find?_cons]
    cases e.1.alike key with
    | true => rfl
    | false => exact ih

/-- The entries in the order of their keys. -/
def byKey (es : List (Value × α)) : List (Value × α) :=
  es.mergeSort (Json.nameLe fun e => e.1.keyName)

theorem byKey_perm (es : List (Value × α)) : (byKey es).Perm es := List.mergeSort_perm es _

theorem byKey_map (f : α → β) (es : List (Value × α)) :
    byKey (es.map fun e => (e.1, f e.2)) = (byKey es).map fun e => (e.1, f e.2) :=
  (List.map_mergeSort (f := fun e : Value × α => (e.1, f e.2)) fun _ _ _ _ => rfl).symm

theorem byKey_byKey (es : List (Value × α)) : byKey (byKey es) = byKey es :=
  List.mergeSort_of_pairwise ((Json.ordered_mergeSort _ es).imp decide_eq_true)

theorem TextKeyed.byKey_eq (h : TextKeyed es) (hperm : fs.Perm es)
    (hsorted : (fs.map fun e => e.1.keyName).Pairwise (· ≤ ·)) : byKey es = fs := by
  have hmerge := byKey_perm es
  refine List.Perm.eq_of_pairwise ?_ (Json.ordered_mergeSort _ es) (List.pairwise_map.mp hsorted)
    (hmerge.trans hperm.symm)
  intro a b ha hb hab hba
  exact List.inj_on_of_nodup_map h.distinct (hmerge.mem_iff.mp ha) (hperm.mem_iff.mp hb)
    (le_antisymm hab hba)

end TextKeyed

namespace Value

/-! ### JSON values -/

/-- The values that JSON has. -/
inductive IsJson : Value → Prop
  | null : IsJson null
  | bool (b : Bool) : IsJson (bool b)
  | int (n : Int) : IsJson (int n)
  | float (x : Binary64) : IsJson (float x)
  | text (s : String) : IsJson (text s)
  | list {vs : List Value} (items : ∀ v ∈ vs, IsJson v) : IsJson (list vs)
  | map {es : List (Value × Value)} (keyed : TextKeyed es) (values : ∀ e ∈ es, IsJson e.2) :
    IsJson (map es)

/-! ### Sorted entries -/

mutual

/-- The value with the entries of all mappings sorted by their keys. -/
def arranged : Value → Value
  | list vs => list (arrangedAll vs)
  | tuple vs => tuple (arrangedAll vs)
  | map es => map (byKey (arrangedEntries es))
  | v => v
termination_by structural v => v

/-- Several values with their entries sorted. -/
def arrangedAll : List Value → List Value
  | [] => []
  | v :: vs => arranged v :: arrangedAll vs
termination_by structural vs => vs

/-- Entries whose values have their entries sorted. -/
def arrangedEntries : List (Value × Value) → List (Value × Value)
  | [] => []
  | (k, v) :: es => (k, arranged v) :: arrangedEntries es
termination_by structural es => es

end

theorem arrangedAll_eq_map (vs : List Value) : arrangedAll vs = vs.map arranged := by
  induction vs with
  | nil => rfl
  | cons v vs ih => exact congrArg (arranged v :: ·) ih

theorem arrangedEntries_eq_map (es : List (Value × Value)) :
    arrangedEntries es = es.map fun e => (e.1, e.2.arranged) := by
  induction es with
  | nil => rfl
  | cons e es ih => exact congrArg ((e.1, e.2.arranged) :: ·) ih

theorem arranged_list (vs : List Value) : (list vs).arranged = list (vs.map arranged) :=
  congrArg list (arrangedAll_eq_map vs)

theorem arranged_tuple (vs : List Value) : (tuple vs).arranged = tuple (vs.map arranged) :=
  congrArg tuple (arrangedAll_eq_map vs)

theorem arranged_map (es : List (Value × Value)) :
    (map es).arranged = map (byKey (es.map fun e => (e.1, e.2.arranged))) :=
  congrArg (fun es => map (byKey es)) (arrangedEntries_eq_map es)

section
variable {w : Value}

theorem eq_null_of_arranged (h : w.arranged = null.arranged) : w = null := by
  cases w <;> first | rfl | cases h

theorem eq_text_of_arranged {s : String} (h : w.arranged = (text s).arranged) : w = text s := by
  cases w <;> first | exact h | cases h

theorem eq_list_of_arranged {vs : List Value} (h : w.arranged = (list vs).arranged) :
    ∃ ws, w = list ws ∧ ws.map arranged = vs.map arranged := by
  rw [arranged_list] at h
  cases w with
  | list ws =>
    rw [arranged_list] at h
    exact ⟨ws, rfl, list.inj h⟩
  | _ => cases h

/-- A value with the sorted entries of a mapping has the same entries in some order, up to the order
of entries in what they hold. -/
theorem eq_map_of_arranged {es : List (Value × Value)} (h : w.arranged = (map es).arranged) :
    ∃ fs, w = map fs ∧
      (fs.map fun e => (e.1, e.2.arranged)).Perm (es.map fun e => (e.1, e.2.arranged)) := by
  rw [arranged_map] at h
  cases w with
  | map fs =>
    rw [arranged_map] at h
    have hsorted := map.inj h
    refine ⟨fs, rfl, ?_⟩
    exact (byKey_perm _).symm.trans (hsorted ▸ byKey_perm _)
  | _ => cases h

end

/-- **Under a text the same stands** in mappings with the same sorted entries. -/
theorem member?_of_arranged {es fs : List (Value × Value)} (hkeyed : TextKeyed es)
    (h : (fs.map fun e => (e.1, e.2.arranged)).Perm (es.map fun e => (e.1, e.2.arranged)))
    (key : String) : (member? fs key).map arranged = (member? es key).map arranged := by
  unfold member?
  rw [map_get?, map_get?]
  exact ((textKeyed_map_iff arranged).mpr hkeyed).get?_perm h key

theorem textKeyed_of_arranged {es fs : List (Value × Value)} (hkeyed : TextKeyed es)
    (h : (fs.map fun e => (e.1, e.2.arranged)).Perm (es.map fun e => (e.1, e.2.arranged))) :
    TextKeyed fs := by
  have harranged := ((textKeyed_map_iff arranged).mpr hkeyed).of_perm h
  exact (textKeyed_map_iff arranged).mp harranged

theorem IsJson.of_arranged {v : Value} (hv : v.IsJson) :
    ∀ w : Value, w.arranged = v.arranged → w.IsJson := by
  induction hv with
  | null => intro w h; rw [eq_null_of_arranged h]; exact .null
  | bool b => intro w h; cases w with | bool c => exact .bool c | _ => cases h
  | int n => intro w h; cases w with | int m => exact .int m | _ => cases h
  | float x => intro w h; cases w with | float y => exact .float y | _ => cases h
  | text s => intro w h; rw [eq_text_of_arranged h]; exact .text s
  | @list vs items ih =>
    intro w h
    obtain ⟨ws, rfl, hws⟩ := eq_list_of_arranged h
    refine .list fun u hu => ?_
    have hmem : u.arranged ∈ vs.map arranged := hws ▸ List.mem_map_of_mem hu
    obtain ⟨v, hv, heq⟩ := List.mem_map.mp hmem
    exact ih v hv u heq.symm
  | @map es keyed values ih =>
    intro w h
    obtain ⟨fs, rfl, hfs⟩ := eq_map_of_arranged h
    refine .map (textKeyed_of_arranged keyed hfs) fun e he => ?_
    have hmem := hfs.mem_iff.mp (List.mem_map_of_mem he)
    obtain ⟨e', he', heq⟩ := List.mem_map.mp hmem
    exact ih e' he' e.2 (congrArg Prod.snd heq).symm

theorem IsJson.arranged_arranged {v : Value} (hv : v.IsJson) : v.arranged.arranged = v.arranged := by
  induction hv with
  | null | bool | int | float | text => rfl
  | @list vs items ih =>
    rw [arranged_list, arranged_list, List.map_map]
    exact congrArg Value.list (List.map_congr_left ih)
  | @map es keyed values ih =>
    have hvalues : (es.map fun e => (e.1, e.2.arranged.arranged)) =
        es.map fun e => (e.1, e.2.arranged) :=
      List.map_congr_left fun e he => by rw [ih e he]
    rw [arranged_map, arranged_map, ← byKey_map, List.map_map, byKey_byKey]
    exact congrArg (fun es => Value.map (byKey es)) hvalues

theorem IsJson.arranged_map_of_order {es : List (Value × Value)} (h : (Value.map es).IsJson)
    (order : List Nat) (horder : order.Perm (List.range es.length))
    (hsorted : (order.map fun i => (es.getD i default).1.keyName).Pairwise (· ≤ ·)) :
    (Value.map es).arranged =
      .map (order.map fun i => ((es.getD i default).1, (es.getD i default).2.arranged)) := by
  cases h with
  | map keyed values =>
    have hplaces : (List.range es.length).map (fun i => es.getD i default) = es := by
      refine List.ext_getElem (by rw [List.length_map, List.length_range]) fun i hi _ => ?_
      rw [List.length_map, List.length_range] at hi
      simp [hi]
    have hperm := horder.map fun i => ((es.getD i default).1, (es.getD i default).2.arranged)
    have hall : (List.range es.length).map
        (fun i => ((es.getD i default).1, (es.getD i default).2.arranged)) =
        es.map fun e => (e.1, e.2.arranged) := by
      conv_rhs => rw [← hplaces]
      rw [List.map_map]
      rfl
    rw [hall] at hperm
    rw [arranged_map]
    refine congrArg Value.map (((textKeyed_map_iff Value.arranged).mpr keyed).byKey_eq hperm ?_)
    rw [List.map_map]
    exact hsorted

end Value

end SubmissionRouting
