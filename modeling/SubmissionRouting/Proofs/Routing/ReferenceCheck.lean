import SubmissionRouting.Proofs.FirstFault
import SubmissionRouting.Proofs.Routing.ReferenceGraph

/-! # The check of references

The check of a table goes along all paths of references from the root, so what it says is a property
of the graph. It fails with the first failure in the order of the references (`faultFrom_eq`), for
which the graph always has a reason (`fails_of_faultFrom`). If it does not fail, every path of
references is a trail that was checked, so that all ids that can be reached are stored and no path
runs into itself (`checked_of_reaches`). Together these make the check sound and complete
(`checkReferences_sound_complete`). -/

namespace SubmissionRouting

open Relation

/-! ### The first failure -/

/-- The failure of the check along a path, if it fails. -/
def faultFrom (ts : Tables) (path : List String) (t : RouteTable) : Option RoutingFault :=
  errorOf? (checkReferencesFrom ts path t)

/-- The failure that a reference to an id leads to, if it leads to one. -/
def faultAt (ts : Tables) (path : List String) (id : String) : Option RoutingFault :=
  match ts.follow path id with
  | .error e => some e
  | .ok next => faultFrom ts (path ++ [id]) next

theorem faultFrom_eq (ts : Tables) (path : List String) (t : RouteTable) :
    faultFrom ts path t = t.referenceIds.findSome? (faultAt ts path) := by
  rw [faultFrom, checkReferencesFrom_eq, errorOf?_forM, RouteTable.referenceIds,
    List.findSome?_map]
  congr 1
  funext r
  rw [Function.comp_apply, faultAt]
  cases ts.follow path r.id <;> rfl

/-! ### Soundness -/

section
variable {ts : Tables} {root : RouteTable}

/-- **The graph has a reason for every failure of the check.** -/
theorem fails_of_faultFrom {path : List String} {t : RouteTable} (h : Trail ts root path t)
    {e : RoutingFault} (he : faultFrom ts path t = some e) : Fails ts root e := by
  induction path, t using ts.follow_induction with
  | step path t ih =>
    rw [faultFrom_eq] at he
    obtain ⟨id, hid, hat⟩ := List.exists_of_findSome?_eq_some he
    unfold faultAt at hat
    cases hnext : ts.follow path id with
    | error e' => rw [hnext] at hat; cases hat; exact h.fails hid hnext
    | ok next => rw [hnext] at hat; exact ih id next hnext (h.follow hid hnext) hat

/-! ### Completeness -/

/-- Beyond a trail that was checked without failure, every reference is followed to such a trail. -/
theorem follow_of_checked {path : List String} {t : RouteTable} (hok : faultFrom ts path t = none)
    {id : String} (hid : id ∈ t.referenceIds) :
    ∃ next, ts.follow path id = .ok next ∧ faultFrom ts (path ++ [id]) next = none := by
  rw [faultFrom_eq, List.findSome?_eq_none_iff] at hok
  have hat := hok id hid
  unfold faultAt at hat
  cases hnext : ts.follow path id with
  | error e => rw [hnext] at hat; cases hat
  | ok next => rw [hnext] at hat; exact ⟨next, rfl, hat⟩

/-- **Whatever is reached from a trail that was checked without failure is at the end of a longer
one.** -/
theorem checked_of_reaches {path : List String} {t : RouteTable} (h : Trail ts root path t)
    (hok : faultFrom ts path t = none) {x y : String} (hx : path.getLast? = some x)
    (hxy : ReflTransGen (Refers ts root) x y) :
    ∃ rest u, Trail ts root (path ++ rest) u ∧ faultFrom ts (path ++ rest) u = none ∧
      (path ++ rest).getLast? = some y := by
  induction hxy with
  | refl => exact ⟨[], t, by simpa using h, by simpa using hok, by simpa using hx⟩
  | @tail b c _ hbc ih =>
    obtain ⟨rest, u, hu, huok, hlast⟩ := ih
    have hc := (hu.refers_iff hlast).mp hbc
    obtain ⟨next, hnext, hnextok⟩ := follow_of_checked huok hc
    refine ⟨rest ++ [c], next, ?_, ?_, by simp⟩
    · rw [← List.append_assoc]; exact hu.follow hc hnext
    · rw [← List.append_assoc]; exact hnextok

/-- **If the check does not fail, no cycle can be reached.** -/
theorem not_cycle_of_checked (hok : faultFrom ts [root.formId] root = none) {x : String}
    (hx : Reaches ts root x) : ¬ TransGen (Refers ts root) x x := by
  intro hcycle
  obtain ⟨rest, t, ht, htok, hlast⟩ := checked_of_reaches (trail_root ts root) hok rfl hx
  obtain ⟨c, hxc, hcx⟩ := TransGen.head'_iff.mp hcycle
  have hc := (ht.refers_iff hlast).mp hxc
  obtain ⟨next, hnext, hnextok⟩ := follow_of_checked htok hc
  obtain ⟨rest', u, hu, -, hlast'⟩ :=
    checked_of_reaches (ht.follow hc hnext) hnextok List.getLast?_concat hcx
  -- `x` ends the shorter trail and the longer one, which has no id twice
  have hmem : x ∈ [c] ++ rest' := by
    rw [List.append_assoc, List.getLast?_append_of_ne_nil _ (by simp)] at hlast'
    exact List.mem_of_getLast? hlast'
  have hnodup := hu.nodup
  rw [List.append_assoc] at hnodup
  exact (List.disjoint_of_nodup_append hnodup) (List.mem_of_getLast? hlast) hmem

theorem stored_of_checked (hok : faultFrom ts [root.formId] root = none) {x : String}
    (hx : Reaches ts root x) (hne : x ≠ root.formId) : (ts.get? x).isSome := by
  obtain ⟨rest, t, ht, -, hlast⟩ := checked_of_reaches (trail_root ts root) hok rfl hx
  obtain ⟨y, hy, hat⟩ := ht.here
  cases hlast.symm.trans hy
  unfold Tables.tableAt at hat
  rw [if_neg hne] at hat
  rw [hat]; rfl

/-! ### The check -/

theorem any_refersTo_iff (t : RouteTable) (id : String) :
    t.routes.any (Route.refersTo id) = true ↔ id ∈ t.referenceIds := by
  rw [List.any_eq_true, RouteTable.mem_referenceIds_iff]
  constructor
  · rintro ⟨route, hmem, href⟩
    cases route with
    | rule r => cases href
    | reference r => exact ⟨r, hmem, by simpa [Route.refersTo] using href⟩
  · rintro ⟨r, hmem, rfl⟩
    exact ⟨.reference r, hmem, by simp [Route.refersTo]⟩

theorem errorOf?_checkReferences (ts : Tables) (root : RouteTable) :
    errorOf? (checkReferences ts root) =
      if root.formId ∈ root.referenceIds then some (.selfReference root.formId)
      else faultFrom ts [root.formId] root := by
  unfold checkReferences
  by_cases h : root.formId ∈ root.referenceIds
  · rw [if_pos h, if_pos ((any_refersTo_iff root root.formId).mpr h)]; rfl
  · rw [if_neg h, if_neg (mt (any_refersTo_iff root root.formId).mp h)]; rfl

theorem refers_root_iff :
    Refers ts root root.formId root.formId ↔ root.formId ∈ root.referenceIds :=
  (trail_root ts root).refers_iff rfl

theorem not_sound_of_refers_root (h : root.formId ∈ root.referenceIds) :
    ¬ SoundReferences ts root := fun hs =>
  hs.acyclic root.formId ReflTransGen.refl (TransGen.single (refers_root_iff.mpr h))

theorem fails_of_checkReferences {e : RoutingFault} (he : checkReferences ts root = .error e) :
    (e = .selfReference root.formId ∧ root.formId ∈ root.referenceIds) ∨ Fails ts root e := by
  rw [← errorOf?_eq_some_iff, errorOf?_checkReferences] at he
  split_ifs at he with hself
  · cases he; exact Or.inl ⟨rfl, hself⟩
  · exact Or.inr (fails_of_faultFrom (trail_root ts root) he)

theorem checkReferences_eq_ok_iff : checkReferences ts root = .ok () ↔ SoundReferences ts root := by
  constructor
  · intro hok
    rw [← errorOf?_eq_none_iff, errorOf?_checkReferences] at hok
    split_ifs at hok
    exact ⟨fun x => stored_of_checked hok, fun x => not_cycle_of_checked hok⟩
  · intro hs
    cases he : checkReferences ts root with
    | ok u => rfl
    | error e =>
      rcases fails_of_checkReferences he with ⟨-, hself⟩ | hfails
      · exact absurd hs (not_sound_of_refers_root hself)
      · exact absurd hs hfails.not_sound

/-- A table fails for a self reference if it has one, whatever else is wrong. -/
theorem checkReferences_eq_selfReference_iff {id : String} :
    checkReferences ts root = .error (.selfReference id) ↔
      id = root.formId ∧ root.formId ∈ root.referenceIds := by
  constructor
  · intro he
    rcases fails_of_checkReferences he with ⟨heq, hself⟩ | hfails
    · cases heq; exact ⟨rfl, hself⟩
    · cases hfails
  · rintro ⟨rfl, hself⟩
    rw [← errorOf?_eq_some_iff, errorOf?_checkReferences, if_pos hself]

/-- **The check of references is sound and complete.** -/
theorem checkReferences_sound_complete (ts : Tables) (root : RouteTable) :
    (checkReferences ts root = .ok () ↔ SoundReferences ts root) ∧
    (∀ id, checkReferences ts root = .error (.selfReference id) ↔
      id = root.formId ∧ root.formId ∈ root.referenceIds) ∧
    (∀ id, checkReferences ts root = .error (.formNotFound id) →
      Reaches ts root id ∧ ts.get? id = none) ∧
    (∀ path, checkReferences ts root = .error (.cyclic path) →
      Lasso (Refers ts root) root.formId path) ∧
    ∀ e, checkReferences ts root = .error e →
      e = .selfReference root.formId ∨ e.ofReferences = true := by
  refine ⟨checkReferences_eq_ok_iff, fun id => checkReferences_eq_selfReference_iff, ?_, ?_, ?_⟩
  · intro id he
    rcases fails_of_checkReferences he with ⟨heq, -⟩ | hfails
    · cases heq
    · cases hfails with
      | formNotFound reached _ missing => exact ⟨reached, missing⟩
  · intro path he
    rcases fails_of_checkReferences he with ⟨heq, -⟩ | hfails
    · cases heq
    · cases hfails with
      | cyclic lasso => exact lasso
  · intro e he
    rcases fails_of_checkReferences he with ⟨heq, -⟩ | hfails
    · exact Or.inl heq
    · exact Or.inr hfails.ofReferences

/-- Two tables that refer to each other. -/
theorem checkReferences_two_forms :
    let b : RouteTable := ⟨"b", [.reference ⟨"a", .null, .null⟩], none⟩
    let a : RouteTable := ⟨"a", [.reference ⟨"b", .null, .null⟩], none⟩
    checkReferences [("b", b)] a = .error (.cyclic ["a", "b", "a"]) ∧
      Lasso (Refers [("b", b)] a) "a" ["a", "b", "a"] := by
  intro b a
  have he : checkReferences [("b", b)] a = .error (.cyclic ["a", "b", "a"]) := by
    rw [← errorOf?_eq_some_iff, errorOf?_checkReferences, if_neg (by decide)]
    simp [a, b, faultFrom_eq, faultAt, RouteTable.referenceIds, RouteTable.references,
      Route.reference?, Tables.follow, Tables.get?]
  exact ⟨he, (checkReferences_sound_complete [("b", b)] a).2.2.2.1 _ he⟩

end

end SubmissionRouting
