import SubmissionRouting.Proofs.Failure
import SubmissionRouting.Proofs.Value.Keys
import Mathlib.Data.List.Induction

/-! # Filling a mapping

A mapping that is filled entry by entry has as its keys the distinct ones among those that came, each
at the place where it came first (`keys_foldl_put`, `keys_foldl_gather`). What stands under a key is
what came with it last, if entries are put (`get?_foldl_put`), or all that came with it, one after the
other, if they are gathered (`get?_foldl_gather`).

Pairs that a loop names after its items are such entries (`NamedBy`). -/

namespace SubmissionRouting

/-! ### Distinct values -/

namespace Value

theorem distinct_append (vs ws : List Value) :
    distinct (vs ++ ws) = ws.foldl noted (distinct vs) := List.foldl_append

theorem isIn_iff {v : Value} {vs : List Value} :
    v.isIn vs = true ↔ ∃ w ∈ vs, alike w v = true := List.any_eq_true

theorem mem_of_mem_distinct {v : Value} {vs : List Value} (h : v ∈ distinct vs) : v ∈ vs := by
  induction vs using List.reverseRecOn with
  | nil => cases h
  | append_singleton vs w ih =>
    rw [distinct_append, List.foldl_cons, List.foldl_nil, noted] at h
    split_ifs at h
    · exact List.mem_append_left _ (ih h)
    · rcases List.mem_append.mp h with h | h
      · exact List.mem_append_left _ (ih h)
      · exact List.mem_append_right _ h

theorem isIn_distinct {v : Value} {vs : List Value} (hkey : v.isKey = true) (h : v ∈ vs) :
    v.isIn (distinct vs) = true := by
  induction vs using List.reverseRecOn with
  | nil => cases h
  | append_singleton vs w ih =>
    rw [distinct_append, List.foldl_cons, List.foldl_nil, noted]
    rcases List.mem_append.mp h with h | h
    · obtain ⟨x, hx, hxv⟩ := isIn_iff.mp (ih h)
      split_ifs
      · exact ih h
      · exact isIn_iff.mpr ⟨x, List.mem_append_left _ hx, hxv⟩
    · rw [List.mem_singleton.mp h] at hkey ⊢
      split_ifs with hin
      · exact hin
      · exact isIn_iff.mpr ⟨w, List.mem_append_right _ List.mem_cons_self, alike_self hkey⟩

theorem isIn_congr {v w : Value} (hkey : v.isKey = true) (h : alike v w = true) (vs : List Value) :
    v.isIn vs = w.isIn vs := by
  unfold isIn
  congr 1
  exact funext fun x => alike_congr_right hkey h x

theorem isIn_distinct_eq {vs : List Value} (hkeys : ∀ v ∈ vs, v.isKey = true) (x : Value) :
    x.isIn (distinct vs) = x.isIn vs := by
  rw [Bool.eq_iff_iff]
  constructor
  · intro h
    obtain ⟨w, hw, hwx⟩ := isIn_iff.mp h
    exact isIn_iff.mpr ⟨w, mem_of_mem_distinct hw, hwx⟩
  · intro h
    obtain ⟨w, hw, hwx⟩ := isIn_iff.mp h
    rw [← isIn_congr (hkeys w hw) hwx]
    exact isIn_distinct (hkeys w hw) hw

theorem areKeys_of_distinct {vs : List Value} (h : ∀ v ∈ distinct vs, v.isKey = true) :
    ∀ v ∈ vs, v.isKey = true := by
  induction vs using List.reverseRecOn with
  | nil => exact nofun
  | append_singleton vs w ih =>
    rw [distinct_append, List.foldl_cons, List.foldl_nil, noted] at h
    refine List.forall_mem_append.mpr ?_
    split_ifs at h with hin
    · obtain ⟨x, hx, hxw⟩ := isIn_iff.mp hin
      exact ⟨ih h, List.forall_mem_singleton.mpr (isKey_of_alike (h x hx) w hxw)⟩
    · obtain ⟨hvs, hw⟩ := List.forall_mem_append.mp h
      exact ⟨ih hvs, hw⟩

end Value

/-! ### Mappings -/

namespace Mapping

variable {α β : Type}

theorem contains_eq_isIn (m : Mapping α) (key : Value) : contains m key = key.isIn (keys m) := by
  rw [contains, Value.isIn, keys, List.any_map]
  rfl

theorem keys_put_eq_noted (m : Mapping α) (key : Value) (a : α) :
    keys (put m key a) = Value.noted (keys m) key := by
  rw [keys_put, contains_eq_isIn, Value.noted]

theorem keys_change (m : Mapping α) (key : Value) (start : α) (f : α → α) :
    keys (change m key start f) = Value.noted (keys m) key := by
  rw [Value.noted, ← contains_eq_isIn]
  induction m with
  | nil => rfl
  | cons e m ih =>
    obtain ⟨k, b⟩ := e
    have hhead : contains ((k, b) :: m) key = (k.alike key || contains m key) := rfl
    rw [change]
    by_cases h : k.alike key = true
    · rw [if_pos h, hhead, h, Bool.true_or, if_pos rfl]; rfl
    · rw [if_neg h, hhead, Bool.eq_false_iff.mpr h, Bool.false_or]
      show k :: keys (change m key start f) = _
      rw [ih]
      split_ifs <;> rfl

/-! ### Entries one after the other -/

theorem keys_foldl_put (m : Mapping α) (pairs : List (Value × α)) :
    keys (pairs.foldl (fun m p => put m p.1 p.2) m) =
      (pairs.map (·.1)).foldl Value.noted (keys m) := by
  induction pairs generalizing m with
  | nil => rfl
  | cons p pairs ih => rw [List.foldl_cons, ih, keys_put_eq_noted, List.map_cons, List.foldl_cons]

theorem get?_append (m n : Mapping α) (x : Value) :
    get? (m ++ n) x = (get? m x).or (get? n x) := by
  unfold get?
  rw [List.find?_append]
  cases m.find? fun e => e.1.alike x <;> rfl

theorem get?_map_const (ids : List Value) (a : α) (x : Value) :
    get? (ids.map fun id => (id, a)) x = if x.isIn ids then some a else none := by
  induction ids with
  | nil => rfl
  | cons id ids ih =>
    have hhead : x.isIn (id :: ids) = (id.alike x || x.isIn ids) := rfl
    rw [List.map_cons, get?_cons, ih, hhead]
    cases id.alike x <;> simp

/-- **Of the entries that are put under a key the last one stands**, or what stood there before. -/
theorem get?_foldl_put (m : Mapping α) {pairs : List (Value × α)}
    (hkeys : ∀ p ∈ pairs, p.1.isKey = true) (x : Value) :
    get? (pairs.foldl (fun m p => put m p.1 p.2) m) x = (get? pairs.reverse x).or (get? m x) := by
  induction pairs generalizing m with
  | nil => rfl
  | cons p pairs ih =>
    obtain ⟨hp, hpairs⟩ := List.forall_mem_cons.mp hkeys
    rw [List.foldl_cons, ih _ hpairs, get?_put hp, List.reverse_cons, get?_append, Option.or_assoc]
    congr 1
    rw [get?_cons]
    split_ifs <;> rfl

theorem get?_ofPairs {pairs : List (Value × α)} (hkeys : ∀ p ∈ pairs, p.1.isKey = true)
    (x : Value) : get? (ofPairs pairs) x = get? pairs.reverse x := by
  rw [ofPairs, get?_foldl_put [] hkeys, get?_nil, Option.or_none]

/-- What is gathered under a key: the mapping with one value more at its end. -/
def gather (m : Mapping (List α)) (pair : Value × α) : Mapping (List α) :=
  change m pair.1 [] (· ++ [pair.2])

/-- What came with a key, in order. -/
def under (pairs : List (Value × α)) (x : Value) : List α :=
  (pairs.filter fun p => p.1.alike x).map (·.2)

theorem under_cons (p : Value × α) (pairs : List (Value × α)) (x : Value) :
    under (p :: pairs) x = (if p.1.alike x then [p.2] else []) ++ under pairs x := by
  rw [under, List.filter_cons]
  split_ifs <;> rfl

theorem keys_foldl_gather (m : Mapping (List α)) (pairs : List (Value × α)) :
    keys (pairs.foldl gather m) = (pairs.map (·.1)).foldl Value.noted (keys m) := by
  induction pairs generalizing m with
  | nil => rfl
  | cons p pairs ih =>
    rw [List.foldl_cons, ih, gather, keys_change, List.map_cons, List.foldl_cons]

/-- **All that came with a key stands under it**, in order, behind what stood there before. -/
theorem get?_foldl_gather (m : Mapping (List α)) {pairs : List (Value × α)}
    (hkeys : ∀ p ∈ pairs, p.1.isKey = true) (x : Value) :
    get? (pairs.foldl gather m) x =
      if (under pairs x).isEmpty then get? m x
      else some ((get? m x).getD [] ++ under pairs x) := by
  induction pairs generalizing m with
  | nil => rfl
  | cons p pairs ih =>
    obtain ⟨hp, hpairs⟩ := List.forall_mem_cons.mp hkeys
    rw [List.foldl_cons, ih _ hpairs, gather, get?_change hp, under_cons]
    by_cases h : p.1.alike x = true
    · rw [if_pos h, if_pos h]
      cases under pairs x with
      | nil => rfl
      | cons a rest => simp
    · rw [if_neg h, if_neg h, List.nil_append]

theorem exists_get?_of_mem_keys {m : Mapping α} {k : Value} (hk : k.isKey = true)
    (h : k ∈ keys m) : ∃ a, get? m k = some a := by
  obtain ⟨e, he, rfl⟩ := List.mem_map.mp h
  have hfound : (m.find? fun d => d.1.alike e.1).isSome = true :=
    List.find?_isSome.mpr ⟨e, he, Value.alike_self hk⟩
  obtain ⟨d, hd⟩ := Option.isSome_iff_exists.mp hfound
  exact ⟨d.2, congrArg (Option.map Prod.snd) hd⟩

/-- What came with a key is the same whether or not other keys are left out. -/
theorem under_filter (keep : Value → Bool) {pairs : List (Value × α)} {x : Value}
    (h : ∀ p ∈ pairs, p.1.alike x = true → keep p.1 = true) :
    under (pairs.filter fun p => keep p.1) x = under pairs x := by
  rw [under, under, List.filter_filter]
  congr 1
  refine List.filter_congr fun p hp => ?_
  by_cases hx : p.1.alike x = true
  · rw [hx, h p hp hx, Bool.true_and]
  · rw [Bool.eq_false_iff.mpr hx, Bool.false_and]

end Mapping

/-! ### Loops that name what they collect -/

section Loops

variable {ε α β : Type} {f : α → Except ε β}

/-- What a step gives for an item, with a name for it. -/
def named (name : α → Value) (f : α → Except ε β) (a : α) : Except ε (Value × β) := do
  pure (name a, ← f a)

/-- Pairs of the names of items and what a step gives for them, item by item. -/
def NamedBy (name : α → Value) (f : α → Except ε β) : List α → List (Value × β) → Prop :=
  List.Forall₂ fun a p => p.1 = name a ∧ f a = .ok p.2

variable {name : α → Value} {l : List α} {pairs : List (Value × β)}

theorem namedBy_of_mapM (h : l.mapM (named name f) = .ok pairs) : NamedBy name f l pairs := by
  refine (forall₂_of_mapM h).imp fun a p hp => ?_
  obtain ⟨b, hb, hp⟩ := exists_of_bind_eq_ok hp
  cases hp
  exact ⟨rfl, hb⟩

theorem exists_ok_named_iff {a : α} : (∃ p, named name f a = .ok p) ↔ ∃ b, f a = .ok b :=
  exists_ok_map_iff

namespace NamedBy

theorem reverse (h : NamedBy name f l pairs) : NamedBy name f l.reverse pairs.reverse :=
  List.forall₂_reverse_iff.mpr h

theorem keys (h : NamedBy name f l pairs) : pairs.map (·.1) = l.map name := by
  induction h with
  | nil => rfl
  | cons hp _ ih => rw [List.map_cons, List.map_cons, hp.1, ih]

theorem get? (h : NamedBy name f l pairs) (x : Value) :
    Option.Rel (fun a b => f a = .ok b) (l.find? fun a => (name a).alike x)
      (Mapping.get? pairs x) := by
  induction h with
  | nil => exact .none
  | cons hp _ ih =>
    rw [List.find?_cons, Mapping.get?_cons, hp.1]
    split
    case h_1 hx => rw [if_pos hx]; exact .some hp.2
    case h_2 hx => rwa [if_neg (Bool.eq_false_iff.mp hx)]

theorem under (h : NamedBy name f l pairs) (x : Value) :
    (l.filter fun a => (name a).alike x).mapM f = .ok (Mapping.under pairs x) := by
  induction h with
  | nil => rfl
  | cons hp _ ih =>
    rw [List.filter_cons, Mapping.under_cons, hp.1]
    split_ifs
    · rw [List.mapM_cons, hp.2, ih]; rfl
    · exact ih

end NamedBy

end Loops

end SubmissionRouting
