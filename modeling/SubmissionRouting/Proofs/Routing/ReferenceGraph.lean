import SubmissionRouting.Proofs.Routing.Following
import Mathlib.Data.List.Chain
import Mathlib.Data.List.Nodup

/-! # The graph of references

Ids are the nodes. A root table stands at its own id, and at any other id the table that is stored
there (`tableAt`); the ids that a table refers to are the ends of its edges (`Refers`).

A path that is taken up id by id, as the walk and the check do, is a `Trail`: it starts at the root,
goes along edges, has no id twice, and the table at hand is the one at its end. Following a
reference makes a longer trail (`Trail.follow`) or fails for a reason that the graph shows
(`Fails`): an id that can be reached and is not stored, or a `Lasso`, a path that runs into itself
(`Trail.fails`). A lasso leads to a cycle (`Lasso.exists_cycle`). -/

namespace SubmissionRouting

open Relation

/-! ### Walks and lassos -/

/-- A path along edges that starts at a root and is simple up to its last id, which stands on it
before. -/
structure Lasso (E : String → String → Prop) (root : String) (path : List String) : Prop where
  start : path.head? = some root
  edges : path.IsChain E
  distinct : path.dropLast.Nodup
  closed : ∃ x, path.getLast? = some x ∧ x ∈ path.dropLast

section Lasso
variable {E : String → String → Prop} {root x y : String}

theorem nodup_snoc {path : List String} {id : String} (h : path.Nodup) (hid : id ∉ path) :
    (path ++ [id]).Nodup := by
  rw [← List.concat_eq_append]
  exact List.Nodup.concat hid h

theorem isChain_snoc {path : List String} (h : path.IsChain E)
    (hedge : ∀ z ∈ path.getLast?, E z x) : (path ++ [x]).IsChain E := by
  refine h.append (List.isChain_singleton x) fun z hz w hw => ?_
  cases hw
  exact hedge z hz

/-- The ids along a path that ends at `x` and goes on to `y` are the ids that lead to `y`. -/
theorem transGen_of_isChain {x y : String} {mid : List String}
    (h : (x :: (mid ++ [y])).IsChain E) : TransGen E x y := by
  induction mid generalizing x with
  | nil => exact TransGen.single (List.isChain_pair.mp h)
  | cons z mid ih =>
    rw [List.cons_append, List.isChain_cons_cons] at h
    exact TransGen.head h.1 (ih h.2)

theorem reflTransGen_of_isChain {path : List String} (hs : path.head? = some x)
    (he : path.IsChain E) (hl : path.getLast? = some y) : ReflTransGen E x y := by
  have hne : path ≠ [] := by rintro rfl; cases hs
  have h := List.relationReflTransGen_of_exists_isChain path he hne
  rw [List.head?_eq_some_head hne] at hs
  rw [List.getLast?_eq_some_getLast hne] at hl
  rwa [Option.some.inj hs, Option.some.inj hl] at h

/-- **A lasso leads to a cycle.** -/
theorem Lasso.exists_cycle {path : List String} (h : Lasso E root path) :
    ∃ x, ReflTransGen E root x ∧ TransGen E x x := by
  obtain ⟨x, hx, hmem⟩ := h.closed
  obtain ⟨before, mid, hmid⟩ := List.append_of_mem hmem
  have hpath : path = before ++ [x] ++ (mid ++ [x]) := by
    rw [← List.dropLast_append_getLast? x hx, hmid]; simp
  have he := h.edges
  rw [hpath] at he
  have hs : (before ++ [x]).head? = some root := by
    have hs := h.start
    rw [hpath] at hs
    cases before <;> simpa using hs
  refine ⟨x, reflTransGen_of_isChain hs he.left_of_append (by simp), ?_⟩
  rw [List.append_assoc] at he
  exact transGen_of_isChain he.right_of_append

end Lasso

/-! ### The graph -/

/-- The ids that a table refers to, in order. -/
def RouteTable.referenceIds (t : RouteTable) : List String := t.references.map (·.id)

theorem RouteTable.mem_referenceIds_iff {t : RouteTable} {id : String} :
    id ∈ t.referenceIds ↔ ∃ r, Route.reference r ∈ t.routes ∧ r.id = id := by
  simp only [RouteTable.referenceIds, RouteTable.references, List.mem_map, List.mem_filterMap]
  constructor
  · rintro ⟨r, ⟨route, hmem, href⟩, rfl⟩
    cases route with
    | rule r' => cases href
    | reference r' => cases href; exact ⟨r, hmem, rfl⟩
  · rintro ⟨r, hmem, rfl⟩
    exact ⟨r, ⟨.reference r, hmem, rfl⟩, rfl⟩

/-- The table at an id: the root at its own, and a stored one elsewhere. -/
def Tables.tableAt (ts : Tables) (root : RouteTable) (id : String) : Option RouteTable :=
  if id = root.formId then some root else ts.get? id

/-- The table at one id refers to another. -/
def Refers (ts : Tables) (root : RouteTable) (a b : String) : Prop :=
  ∃ t, ts.tableAt root a = some t ∧ b ∈ t.referenceIds

/-- References lead from the root to an id. -/
def Reaches (ts : Tables) (root : RouteTable) (id : String) : Prop :=
  ReflTransGen (Refers ts root) root.formId id

/-- What can be reached from the root is stored and lies on no cycle. -/
structure SoundReferences (ts : Tables) (root : RouteTable) : Prop where
  stored : ∀ x, Reaches ts root x → x ≠ root.formId → (ts.get? x).isSome
  acyclic : ∀ x, Reaches ts root x → ¬ TransGen (Refers ts root) x x

/-- The fault is one of following references. -/
def RoutingFault.ofReferences : RoutingFault → Bool
  | cyclic _ | formNotFound _ => true
  | brokenTable _ _ | selfReference _ | noEligibleHost _ => false

theorem Tables.ofReferences_of_follow {ts : Tables} {path : List String} {id : String}
    {e : RoutingFault} (h : ts.follow path id = .error e) : e.ofReferences = true := by
  rcases follow_error_cases h with ⟨-, rfl⟩ | ⟨-, -, rfl⟩ <;> rfl

/-- The reason that the graph has for a failure. -/
inductive Fails (ts : Tables) (root : RouteTable) : RoutingFault → Prop
  | formNotFound {id : String} (reached : Reaches ts root id) (other : id ≠ root.formId)
    (missing : ts.get? id = none) : Fails ts root (.formNotFound id)
  | cyclic {path : List String} (lasso : Lasso (Refers ts root) root.formId path) :
    Fails ts root (.cyclic path)

namespace Fails

variable {ts : Tables} {root : RouteTable} {e : RoutingFault}

theorem ofReferences (h : Fails ts root e) : e.ofReferences = true := by
  cases h <;> rfl

theorem not_sound (h : Fails ts root e) : ¬ SoundReferences ts root := by
  intro hs
  cases h with
  | formNotFound reached other missing => simpa [missing] using hs.stored _ reached other
  | cyclic lasso =>
    obtain ⟨x, hx, hcycle⟩ := lasso.exists_cycle
    exact hs.acyclic x hx hcycle

end Fails

/-- The path that is taken from the root to the table at hand. -/
structure Trail (ts : Tables) (root : RouteTable) (path : List String) (t : RouteTable) : Prop where
  start : path.head? = some root.formId
  edges : path.IsChain (Refers ts root)
  nodup : path.Nodup
  here : ∃ id, path.getLast? = some id ∧ ts.tableAt root id = some t

theorem trail_root (ts : Tables) (root : RouteTable) : Trail ts root [root.formId] root where
  start := rfl
  edges := List.isChain_singleton _
  nodup := List.nodup_singleton _
  here := ⟨root.formId, rfl, if_pos rfl⟩

namespace Trail

variable {ts : Tables} {root t next : RouteTable} {path : List String} {id : String}

theorem root_mem (h : Trail ts root path t) : root.formId ∈ path := List.mem_of_head? h.start

theorem ne_root (h : Trail ts root path t) (hid : id ∉ path) : id ≠ root.formId :=
  fun he => hid (he ▸ h.root_mem)

theorem reaches_last (h : Trail ts root path t) {x : String} (hx : path.getLast? = some x) :
    Reaches ts root x := reflTransGen_of_isChain h.start h.edges hx

theorem refers_iff (h : Trail ts root path t) {x : String} (hx : path.getLast? = some x) :
    Refers ts root x id ↔ id ∈ t.referenceIds := by
  obtain ⟨y, hy, ht⟩ := h.here
  cases hx.symm.trans hy
  constructor
  · rintro ⟨u, hu, hid⟩
    cases hu.symm.trans ht
    exact hid
  · exact fun hid => ⟨t, ht, hid⟩

theorem edges_snoc (h : Trail ts root path t) (hid : id ∈ t.referenceIds) :
    (path ++ [id]).IsChain (Refers ts root) :=
  isChain_snoc h.edges fun _ hx => (h.refers_iff hx).mpr hid

theorem start_snoc (h : Trail ts root path t) : (path ++ [id]).head? = some root.formId := by
  rw [List.head?_append, h.start]; rfl

theorem follow (h : Trail ts root path t) (hid : id ∈ t.referenceIds)
    (hnext : ts.follow path id = .ok next) : Trail ts root (path ++ [id]) next := by
  obtain ⟨hmem, hget⟩ := Tables.follow_eq_ok_iff.mp hnext
  refine ⟨h.start_snoc, h.edges_snoc hid, nodup_snoc h.nodup hmem, id, by simp, ?_⟩
  unfold Tables.tableAt
  rw [if_neg (h.ne_root hmem), hget]

theorem fails (h : Trail ts root path t) (hid : id ∈ t.referenceIds) {e : RoutingFault}
    (he : ts.follow path id = .error e) : Fails ts root e := by
  rcases Tables.follow_error_cases he with ⟨hmem, rfl⟩ | ⟨hmem, hget, rfl⟩
  · refine .cyclic ⟨h.start_snoc, h.edges_snoc hid, ?_, id, by simp, ?_⟩
    · rw [List.dropLast_concat]; exact h.nodup
    · rw [List.dropLast_concat]; exact hmem
  · obtain ⟨x, hx, -⟩ := h.here
    exact .formNotFound ((h.reaches_last hx).tail ((h.refers_iff hx).mpr hid)) (h.ne_root hmem) hget

end Trail

end SubmissionRouting
