import SubmissionRouting.Proofs.Number.Magnitude
import SubmissionRouting.Value.Mapping
import Mathlib.Data.List.Forall2

/-! # Keys

Keys are found again by `Value.alike`, under which values of different kinds may be equal. A key that
is no tuple is known by what it denotes (`Value.scalarKey?`, `scalarsAlike_iff`), and tuples are known
by their items. So `alike` is an equivalence among keys (`alike_self`, `alike_comm`,
`alike_trans`), and whatever is put under a key is found under every key that is alike
(`get?_congr`, `get?_put`). -/

namespace SubmissionRouting

/-! ### Scalars -/

/-- What a scalar denotes as a key. -/
inductive ScalarKey where
  | null
  | number (x : Int ⊕ Binary64)
  | text (s : String)
  | date (d : Date)
  | moment (m : Int ⊕ Moment)

/-- The exact value of a number of either kind. -/
def Quantity.exactValue : Quantity → Int ⊕ Binary64
  | whole n => .inl n
  | real x => x.exactValue

theorem Quantity.alike_iff {a b : Quantity} : a.alike b = true ↔ a.exactValue = b.exactValue := by
  have hwhole (x : Binary64) (n : Int) : x.sameInt n = true ↔ x.exactValue = .inl n := by
    unfold Binary64.sameInt Binary64.exactValue
    cases x.toInt? <;> simp
  cases a with
  | whole m =>
    cases b with
    | whole n => simp [alike, exactValue]
    | real y => exact (hwhole y m).trans eq_comm
  | real x =>
    cases b with
    | whole n => exact hwhole x n
    | real y => exact Binary64.alike_iff

/-- A moment as it is compared: its instant, or the moment itself if that is not known. -/
def Moment.placed (m : Moment) : Int ⊕ Moment :=
  match m.instant? with
  | some i => .inl i
  | none => .inr m

theorem Moment.same_iff {a b : Moment} : a.same b = true ↔ a.placed = b.placed := by
  unfold Moment.same Moment.placed
  cases a.instant? <;> cases b.instant? <;> simp

namespace Value

/-- What a value denotes as a key, if it is no collection. -/
def scalarKey? : Value → Option ScalarKey
  | null => some .null
  | bool b => some (.number (.inl (if b then 1 else 0)))
  | int n => some (.number (.inl n))
  | float x => some (.number x.exactValue)
  | text s => some (.text s)
  | date d => some (.date d)
  | moment m => some (.moment m.placed)
  | _ => none

/-- **Two scalars are alike if and only if they denote the same.** -/
theorem scalarsAlike_iff {v w : Value} :
    scalarsAlike v w = true ↔ ∃ k, w.scalarKey? = some k ∧ v.scalarKey? = some k := by
  cases v <;> cases w <;>
    simp [scalarsAlike, quantity?, scalarKey?, Quantity.alike_iff, Quantity.exactValue,
      Moment.same_iff]

/-- The value is a scalar. -/
def IsScalar (v : Value) : Prop := ∃ k, v.scalarKey? = some k

theorem IsScalar.alike_iff {v w : Value} (h : v.IsScalar) :
    alike v w = true ↔ v.scalarKey? = w.scalarKey? := by
  obtain ⟨k, hk⟩ := h
  have hscalar : alike v w = scalarsAlike v w := by
    cases v with
    | list | tuple | set | map => cases hk
    | _ => rfl
  rw [hscalar, scalarsAlike_iff]
  constructor
  · rintro ⟨j, hw, hv⟩; exact hv.trans hw.symm
  · intro h; exact ⟨k, h ▸ hk, hk⟩

theorem IsScalar.of_alike {v w : Value} (h : v.IsScalar) (hvw : alike v w = true) :
    w.IsScalar := by
  obtain ⟨k, hk⟩ := h
  exact ⟨k, (IsScalar.alike_iff ⟨k, hk⟩).mp hvw ▸ hk⟩

theorem IsScalar.isKey {v : Value} (h : v.IsScalar) : v.isKey = true := by
  obtain ⟨k, hk⟩ := h
  cases v with
  | list | tuple | set | map | knot | link => cases hk
  | _ => rfl

/-! ### Tuples -/

theorem areKeys_iff {vs : List Value} : areKeys vs = true ↔ ∀ v ∈ vs, v.isKey = true := by
  induction vs with
  | nil => simp [areKeys]
  | cons v vs ih => simp [areKeys, ih]

theorem allAlike_iff {vs ws : List Value} :
    allAlike vs ws = true ↔ List.Forall₂ (fun v w => alike v w = true) vs ws := by
  induction vs generalizing ws with
  | nil => cases ws <;> simp [allAlike]
  | cons v vs ih => cases ws <;> simp [allAlike, ih]

theorem alike_tuple_iff {vs : List Value} {w : Value} :
    alike (tuple vs) w = true ↔
      ∃ ws, w = tuple ws ∧ List.Forall₂ (fun v w => alike v w = true) vs ws := by
  cases w <;> simp [alike, allAlike_iff]

theorem alike_tuple_right_iff {v : Value} {ws : List Value} :
    alike v (tuple ws) = true ↔
      ∃ vs, v = tuple vs ∧ List.Forall₂ (fun v w => alike v w = true) vs ws := by
  cases v <;> simp [alike, allAlike_iff, scalarsAlike_iff, scalarKey?]

theorem IsScalar.of_alike_left {v w : Value} (h : w.IsScalar) (hvw : alike v w = true) :
    v.IsScalar := by
  obtain ⟨k, hk⟩ := h
  cases v with
  | list | tuple | set | map | knot | link =>
    cases w <;> simp [alike, scalarsAlike_iff, scalarKey?] at hk hvw
  | _ => exact ⟨_, rfl⟩

/-- **Induction over keys**: a key is a scalar, or a tuple of keys. -/
@[elab_as_elim]
theorem key_induction {motive : Value → Prop} (scalar : ∀ v : Value, v.IsScalar → motive v)
    (tuple : ∀ vs, (∀ v ∈ vs, motive v) → motive (.tuple vs)) :
    ∀ v : Value, v.isKey = true → motive v
  | .tuple vs, h => tuple vs fun v hv => key_induction scalar tuple v (areKeys_iff.mp h v hv)
  | .null, _ => scalar _ ⟨_, rfl⟩
  | .bool _, _ => scalar _ ⟨_, rfl⟩
  | .int _, _ => scalar _ ⟨_, rfl⟩
  | .float _, _ => scalar _ ⟨_, rfl⟩
  | .text _, _ => scalar _ ⟨_, rfl⟩
  | .date _, _ => scalar _ ⟨_, rfl⟩
  | .moment _, _ => scalar _ ⟨_, rfl⟩

/-! ### Equivalence -/

theorem alike_self {v : Value} (h : v.isKey = true) : alike v v = true := by
  refine key_induction ?_ ?_ v h
  · intro v hv
    exact hv.alike_iff.mpr rfl
  · intro vs ih
    exact alike_tuple_iff.mpr ⟨vs, rfl, List.forall₂_same.mpr ih⟩

theorem alike_comm {v : Value} (h : v.isKey = true) : ∀ w, alike v w = alike w v := by
  refine key_induction ?_ ?_ v h
  · intro v hv w
    rw [Bool.eq_iff_iff]
    constructor
    · intro hvw
      exact (hv.of_alike hvw).alike_iff.mpr (hv.alike_iff.mp hvw).symm
    · intro hwv
      exact hv.alike_iff.mpr ((hv.of_alike_left hwv).alike_iff.mp hwv).symm
  · intro vs ih w
    have hitems (ws : List Value) : List.Forall₂ (fun v w => alike v w = true) vs ws ↔
        List.Forall₂ (fun v w => alike v w = true) ws vs := by
      induction vs generalizing ws with
      | nil => cases ws <;> simp
      | cons v vs ihs =>
        cases ws with
        | nil => simp
        | cons w ws =>
          rw [List.forall₂_cons, List.forall₂_cons, ih v List.mem_cons_self w,
            ihs (fun u hu => ih u (List.mem_cons_of_mem v hu)) ws]
    rw [Bool.eq_iff_iff, alike_tuple_iff, alike_tuple_right_iff]
    simp only [hitems]

theorem alike_of_alike {v : Value} (h : v.isKey = true) :
    ∀ u w, alike v u = true → alike v w = true → alike u w = true := by
  refine key_induction ?_ ?_ v h
  · intro v hv u w hu hw
    have huk := hv.of_alike hu
    exact huk.alike_iff.mpr ((hv.alike_iff.mp hu).symm.trans (hv.alike_iff.mp hw))
  · intro vs ih u w hu hw
    obtain ⟨us, rfl, hus⟩ := alike_tuple_iff.mp hu
    obtain ⟨ws, rfl, hws⟩ := alike_tuple_iff.mp hw
    refine alike_tuple_iff.mpr ⟨ws, rfl, ?_⟩
    clear hu hw
    induction hus generalizing ws with
    | nil => cases hws; exact .nil
    | @cons v u vs us hvu _ ihs =>
      obtain _ | ⟨hvw, hws⟩ := hws
      exact .cons (ih v List.mem_cons_self _ _ hvu hvw)
        (ihs (fun x hx => ih x (List.mem_cons_of_mem v hx)) _ hws)

theorem isKey_of_alike {v : Value} (h : v.isKey = true) :
    ∀ w, alike v w = true → w.isKey = true := by
  refine key_induction ?_ ?_ v h
  · intro v hv w hw
    exact (hv.of_alike hw).isKey
  · intro vs ih w hw
    obtain ⟨ws, rfl, hws⟩ := alike_tuple_iff.mp hw
    clear hw
    show areKeys ws = true
    induction hws with
    | nil => rfl
    | @cons v w vs ws hvw _ ihs =>
      have hw := ih v List.mem_cons_self w hvw
      have hws := ihs fun x hx => ih x (List.mem_cons_of_mem v hx)
      rw [areKeys, hw, hws, Bool.true_and]

section
variable {k x : Value}

theorem alike_congr_left (hk : k.isKey = true) (h : alike k x = true) (w : Value) :
    alike k w = alike x w := by
  have hx := isKey_of_alike hk x h
  have hxk : alike x k = true := (alike_comm hk x) ▸ h
  rw [Bool.eq_iff_iff]
  exact ⟨alike_of_alike hk x w h, alike_of_alike hx k w hxk⟩

theorem alike_congr_right (hk : k.isKey = true) (h : alike k x = true) (w : Value) :
    alike w k = alike w x := by
  rw [← alike_comm hk w, ← alike_comm (isKey_of_alike hk x h) w]
  exact alike_congr_left hk h w

theorem asKey_of_isKey (hk : k.isKey = true) : k.asKey = .ok k := if_pos hk

theorem isKey_of_asKey (h : k.asKey = .ok x) : k.isKey = true ∧ x = k := by
  unfold asKey at h
  by_cases hk : k.isKey = true
  · rw [if_pos hk] at h; exact ⟨hk, (Except.ok.inj h).symm⟩
  · rw [if_neg hk] at h; cases h

end

end Value

/-! ### Lookups -/

namespace Mapping

variable {α : Type} {k x : Value}

theorem get?_congr (hk : k.isKey = true) (h : k.alike x = true) (m : Mapping α) :
    get? m k = get? m x := by
  unfold get?
  have halike : (fun e : Value × α => e.1.alike k) = fun e => e.1.alike x :=
    funext fun e => Value.alike_congr_right hk h e.1
  rw [halike]

theorem get?_cons (e : Value × α) (m : Mapping α) (x : Value) :
    get? (e :: m) x = if e.1.alike x then some e.2 else get? m x := by
  unfold get?
  rw [List.find?_cons]
  cases e.1.alike x <;> rfl

/-- **After a change, what stands for a key has changed** for all keys that are alike to it, and nothing
else has. -/
theorem get?_change (hk : k.isKey = true) (m : Mapping α) (start : α) (f : α → α)
    (x : Value) :
    get? (change m k start f) x =
      if k.alike x then some (f ((get? m x).getD start)) else get? m x := by
  induction m with
  | nil => exact get?_cons (k, f start) [] x
  | cons e m ih =>
    obtain ⟨j, b⟩ := e
    rw [change, get?_cons]
    by_cases hjk : j.alike k = true
    · have hj : k.alike j = true := (Value.alike_comm hk j).trans hjk
      have hsame : j.alike x = k.alike x := (Value.alike_congr_left hk hj x).symm
      rw [if_pos hjk, get?_cons, hsame]
      split <;> rfl
    · rw [if_neg hjk, get?_cons, ih]
      by_cases hkx : k.alike x = true
      · have hjx : ¬ j.alike x = true := by rwa [← Value.alike_congr_right hk hkx j]
        rw [if_neg hjx, if_neg hjx, if_pos hkx]
      · rw [if_neg hkx, if_neg hkx]

theorem put_eq_change (m : Mapping α) (k : Value) (a start : α) :
    put m k a = change m k start fun _ => a := by
  induction m with
  | nil => rfl
  | cons e m ih => rw [put, change, ih]

/-- **After an entry was put, it stands for all keys that are alike to its key**, and nothing else has
changed. -/
theorem get?_put (hk : k.isKey = true) (m : Mapping α) (a : α) (x : Value) :
    get? (put m k a) x = if k.alike x then some a else get? m x := by
  rw [put_eq_change m k a a, get?_change hk]

theorem get?_put_self (hk : k.isKey = true) (m : Mapping α) (a : α) :
    get? (put m k a) k = some a := by
  rw [get?_put hk, if_pos (Value.alike_self hk)]

end Mapping

end SubmissionRouting
