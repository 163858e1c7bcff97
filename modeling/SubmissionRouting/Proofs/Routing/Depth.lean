import SubmissionRouting.Proofs.Routing.Agreement
import Mathlib.Data.Finset.Card

/-! # How deep chains go

Each reference that is followed takes up a stored id that was not on the path. So a path has at most
one id more than there are stored ids, that of the entry form (`Simple.length_le`), and neither the
walk nor the check calls itself more often one inside the other, whatever the tables refer to.

To say this of the running functions, each is given a second form that counts its nested calls and
keeps the ids visited in a set of their own beside the path (`walkWithin`, `checkWithin`). A call that
is too deep, or one at which the set is not that of the ids on the path or the path has an id twice,
comes to whatever a function `otherwise` says. That the outcome and the journal are still the same,
for every `otherwise`, says that there is no such call.

A fault for a cycle carries a path that runs into itself (`lasso_of_resolve`). -/

namespace SubmissionRouting

/-! ### Simple paths -/

/-- A path without repetition that goes from one id on along stored ids. -/
structure Simple (ts : Tables) (path : List String) : Prop where
  nodup : path.Nodup
  stored : ∃ root rest, path = root :: rest ∧ ∀ x ∈ rest, x ∈ ts.ids

theorem simple_singleton (ts : Tables) (id : String) : Simple ts [id] :=
  ⟨List.nodup_singleton id, id, [], rfl, by simp⟩

section
variable {ts : Tables} {path : List String} {id : String} {next : RouteTable}

theorem Simple.follow (h : Simple ts path) (hnext : ts.follow path id = .ok next) :
    Simple ts (path ++ [id]) := by
  obtain ⟨hid, hget⟩ := Tables.follow_eq_ok_iff.mp hnext
  obtain ⟨root, rest, rfl, hrest⟩ := h.stored
  refine ⟨nodup_snoc h.nodup hid, root, rest ++ [id], by simp, fun x hx => ?_⟩
  rcases List.mem_append.mp hx with hx | hx
  · exact hrest x hx
  · rw [List.mem_singleton.mp hx]
    exact Tables.mem_ids_of_get? hget

/-- **A simple path has at most one id more than there are stored ids.** -/
theorem Simple.length_le (h : Simple ts path) : path.length ≤ ts.ids.toFinset.card + 1 := by
  obtain ⟨root, rest, rfl, hrest⟩ := h.stored
  have hsub : rest.toFinset ⊆ ts.ids.toFinset := fun x hx =>
    List.mem_toFinset.mpr (hrest x (List.mem_toFinset.mp hx))
  have hcard := Finset.card_le_card hsub
  rw [List.toFinset_card_of_nodup (List.nodup_cons.mp h.nodup).2] at hcard
  rw [List.length_cons]
  omega

end

/-! ### The walk with a visited set -/

/-- A call of the walk: the ids on the way to a table, the set of ids visited, the table, and the
fields given for tables without a catalog. -/
structure Hop where
  path : List String
  visited : Finset String
  table : RouteTable
  fields : Option (List Field)

namespace Hop

/-- The set visited is that of the ids on the path, which has no id twice. -/
def Consistent (h : Hop) : Prop := h.path.Nodup ∧ h.visited = h.path.toFinset

instance (h : Hop) : Decidable h.Consistent := inferInstanceAs (Decidable (_ ∧ _))

/-- The call for a table that a reference leads to. -/
def enter (h : Hop) (id : String) (next : RouteTable) : Hop :=
  ⟨h.path ++ [id], insert id h.visited, next, next.fields.or h.fields⟩

/-- The table that an id leads to; the visited set says whether the id closes a cycle. -/
def follow (ts : Tables) (h : Hop) (id : String) : Except RoutingFault RouteTable :=
  if id ∈ h.visited then .error (.cyclic (h.path ++ [id]))
  else
    match ts.get? id with
    | none => .error (.formNotFound id)
    | some next => .ok next

theorem Consistent.follow_eq {h : Hop} (hc : h.Consistent) (ts : Tables) (id : String) :
    h.follow ts id = ts.follow h.path id := by
  have hmem : id ∈ h.visited ↔ id ∈ h.path := by rw [hc.2, List.mem_toFinset]
  unfold follow
  by_cases hid : id ∈ h.path
  · rw [if_pos (hmem.mpr hid), Tables.follow_of_mem hid]
  · rw [if_neg (mt hmem.mp hid)]
    cases hget : ts.get? id with
    | none => rw [Tables.follow_of_none hid hget]
    | some next => rw [Tables.follow_of_some hid hget]

theorem Consistent.enter {ts : Tables} {h : Hop} (hc : h.Consistent) {id : String}
    {next : RouteTable} (hnext : ts.follow h.path id = .ok next) : (h.enter id next).Consistent := by
  obtain ⟨hid, -⟩ := Tables.follow_eq_ok_iff.mp hnext
  refine ⟨nodup_snoc hc.1 hid, ?_⟩
  show insert id h.visited = (h.path ++ [id]).toFinset
  rw [hc.2, List.toFinset_append, List.toFinset_cons, List.toFinset_nil, Finset.union_comm,
    insert_empty_eq, Finset.insert_eq]

/-- What a reference contributes to a call, with the calls made for it left to a function. -/
def followReference (ts : Tables) (h : Hop) (walkOn : Hop → Journaled (Option Selection))
    (r : RouterReference) : Journaled (Option Selection) :=
  match h.follow ts r.id with
  | .error cause => Journaled.fail (.routing cause)
  | .ok next => do
    Journaled.write .debug .chain
      ("Following router reference " ++ r.id ++ " at depth " ++ decimalText h.path.length)
    let s ← walkOn (h.enter r.id next)
    pure (s.map (Selection.via h.table.formId))

end Hop

/-- The walk with a visited set, with so many nested calls at most. -/
def walkWithin (ts : Tables) (response : Response)
    (otherwise : Hop → Journaled (Option Selection)) : ℕ → Hop → Journaled (Option Selection)
  | 0, h => otherwise h
  | depth + 1, h =>
    if h.Consistent then do
      let context ← h.table.context response h.fields
      firstMatch h.table.formId context (h.followReference ts (walkWithin ts response otherwise depth))
        h.table.routes
    else otherwise h

/-- The resolution with a visited set, with so many nested calls of the walk at most. -/
def resolveWithin (otherwise : Hop → Journaled (Option Selection)) (depth : ℕ) (formId : String)
    (t : RouteTable) (response : Response) (ts : Tables) (fields : Option (List Field)) :
    Journaled Selection := do
  let entry := { t with formId := formId }
  match ← walkWithin ts response otherwise depth ⟨[formId], {formId}, entry, fields⟩ with
  | some s => pure s
  | none => entry.selectFallback (← entry.context response fields)

/-- **No call of the walk is deeper than there can be ids on a simple path**, and at each of them the
set and the path agree. -/
theorem walkWithin_eq {ts : Tables} (response : Response)
    (otherwise : Hop → Journaled (Option Selection)) {depth : ℕ} {h : Hop} (hc : h.Consistent)
    (hs : Simple ts h.path) (hdepth : ts.ids.toFinset.card + 2 ≤ depth + h.path.length) :
    walkWithin ts response otherwise depth h = walk ts response h.path h.table h.fields := by
  induction depth generalizing h with
  | zero =>
    -- no simple path is long enough to come here
    have := hs.length_le
    omega
  | succ depth ih =>
    have hreference : h.followReference ts (walkWithin ts response otherwise depth) =
        followReference ts response h.path h.table h.fields := by
      funext r
      unfold Hop.followReference followReference
      rw [hc.follow_eq]
      cases hnext : ts.follow h.path r.id with
      | error cause => rfl
      | ok next =>
        have hlong : (h.enter r.id next).path.length = h.path.length + 1 := by
          rw [Hop.enter, List.length_append]; rfl
        dsimp only
        rw [ih (hc.enter hnext) (hs.follow hnext) (by omega)]
        rfl
    rw [walkWithin, if_pos hc, walk_eq, hreference]

theorem resolveWithin_eq (otherwise : Hop → Journaled (Option Selection)) (formId : String)
    (t : RouteTable) (response : Response) (ts : Tables) (fields : Option (List Field)) :
    resolveWithin otherwise (ts.ids.toFinset.card + 1) formId t response ts fields =
      resolve formId t response ts fields := by
  have hc : Hop.Consistent ⟨[formId], {formId}, { t with formId := formId }, fields⟩ :=
    ⟨List.nodup_singleton formId, rfl⟩
  rw [resolveWithin, walkWithin_eq response otherwise hc (simple_singleton ts formId) le_rfl]
  rfl

/-! ### The check -/

/-- The check along a path, with so many nested calls at most. -/
def checkWithin (ts : Tables) (otherwise : List String → RouteTable → Except RoutingFault Unit) :
    ℕ → List String → RouteTable → Except RoutingFault Unit
  | 0, path, t => otherwise path t
  | depth + 1, path, t =>
    if path.Nodup then
      t.references.forM fun r =>
        ts.follow path r.id >>= checkWithin ts otherwise depth (path ++ [r.id])
    else otherwise path t

/-- The check of a table, with so many nested calls along paths at most. -/
def checkReferencesWithin (otherwise : List String → RouteTable → Except RoutingFault Unit)
    (depth : ℕ) (ts : Tables) (t : RouteTable) : Except RoutingFault Unit :=
  if t.routes.any (Route.refersTo t.formId) then .error (.selfReference t.formId)
  else checkWithin ts otherwise depth [t.formId] t

theorem checkWithin_eq {ts : Tables}
    (otherwise : List String → RouteTable → Except RoutingFault Unit) {depth : ℕ}
    {path : List String} (t : RouteTable) (hs : Simple ts path)
    (hdepth : ts.ids.toFinset.card + 2 ≤ depth + path.length) :
    checkWithin ts otherwise depth path t = checkReferencesFrom ts path t := by
  induction depth generalizing path t with
  | zero =>
    have := hs.length_le
    omega
  | succ depth ih =>
    rw [checkWithin, if_pos hs.nodup, checkReferencesFrom_eq]
    congr 1
    funext r
    cases hnext : ts.follow path r.id with
    | error cause => rfl
    | ok next =>
      have hlong : (path ++ [r.id]).length = path.length + 1 := List.length_append
      exact ih next (hs.follow hnext) (by omega)

theorem checkReferencesWithin_eq
    (otherwise : List String → RouteTable → Except RoutingFault Unit) (ts : Tables)
    (t : RouteTable) :
    checkReferencesWithin otherwise (ts.ids.toFinset.card + 1) ts t = checkReferences ts t := by
  rw [checkReferencesWithin, checkReferences,
    checkWithin_eq otherwise t (simple_singleton ts t.formId) le_rfl]

/-! ### Faults for cycles -/

section
variable {ts : Tables} {root : RouteTable}

/-- **The graph has a reason for every fault of references among the items of a table.** -/
theorem fails_of_mem_inlined {path chain : List String} {t : RouteTable}
    {fields : Option (List Field)} (h : Trail ts root path t) {e : RoutingFault}
    (hmem : Item.fault (.routing e) ∈ inlined ts path chain t fields) : Fails ts root e := by
  induction path, t using ts.follow_induction generalizing chain fields with
  | step path t ih =>
    rcases mem_inlined_cases hmem with ⟨cause, hcat, heq⟩ | ⟨r, catalog, -, -, -, heq⟩ |
      ⟨r, hroute, ⟨e', hfollow, heq⟩ | ⟨next, hnext, hitem⟩⟩
    · cases heq
      exact absurd hcat (unrouted_catalog t fields e)
    · cases heq
    · cases heq
      exact h.fails (RouteTable.mem_referenceIds_iff.mpr ⟨r, hroute, rfl⟩) hfollow
    · have hid : r.id ∈ t.referenceIds := RouteTable.mem_referenceIds_iff.mpr ⟨r, hroute, rfl⟩
      exact ih r.id next hnext (h.follow hid hnext) hitem

theorem fails_of_resolve {formId : String} {t : RouteTable} {response : Response}
    {fields : Option (List Field)} {e : RoutingFault} (he : e.ofReferences = true)
    (h : (resolve formId t response ts fields).outcome = .error (.routing e)) :
    Fails ts { t with formId := formId } e := by
  -- the resolution of a form is that of its table at the id of the form
  let entry : RouteTable := { t with formId := formId }
  have hentry : (resolve entry.formId entry response ts fields).outcome = .error (.routing e) := h
  exact fails_of_mem_inlined (trail_root ts entry) (fault_mem_inlined_of_resolve he hentry)

/-- **The path of a fault for a cycle runs along references from the entry form into itself.** -/
theorem lasso_of_resolve {formId : String} {t : RouteTable} {response : Response}
    {fields : Option (List Field)} {path : List String}
    (h : (resolve formId t response ts fields).outcome = .error (.routing (.cyclic path))) :
    Lasso (Refers ts { t with formId := formId }) formId path := by
  cases fails_of_resolve rfl h with
  | cyclic lasso => exact lasso

theorem lasso_of_checkReferences {path : List String}
    (h : checkReferences ts root = .error (.cyclic path)) :
    Lasso (Refers ts root) root.formId path := by
  rcases fails_of_checkReferences h with ⟨heq, -⟩ | hfails
  · cases heq
  · cases hfails with
    | cyclic lasso => exact lasso

end

/-- **Resolution and check terminate on every graph of references.** With one nested call more than
there are stored ids the bounded forms come to the same, whatever is said of calls that are deeper or
at which the visited set and the path disagree: there are none. And the path of a fault for a cycle
is a lasso from the entry form. -/
theorem resolution_bounded (ts : Tables) :
    (∀ otherwise formId t response fields,
      resolveWithin otherwise (ts.ids.toFinset.card + 1) formId t response ts fields =
        resolve formId t response ts fields) ∧
    (∀ otherwise t,
      checkReferencesWithin otherwise (ts.ids.toFinset.card + 1) ts t = checkReferences ts t) ∧
    (∀ formId t response fields path,
      (resolve formId t response ts fields).outcome = .error (.routing (.cyclic path)) →
        Lasso (Refers ts { t with formId := formId }) formId path) ∧
    ∀ t path, checkReferences ts t = .error (.cyclic path) → Lasso (Refers ts t) t.formId path :=
  ⟨fun otherwise formId t response fields =>
      resolveWithin_eq otherwise formId t response ts fields,
    fun otherwise t => checkReferencesWithin_eq otherwise ts t,
    fun _ _ _ _ _ h => lasso_of_resolve h,
    fun _ _ h => lasso_of_checkReferences h⟩

/-- A table that leads to two others that refer to each other, one of them stored under another
id. -/
theorem resolution_bounded_cycle_behind_entry :
    let table (formId target : String) : RouteTable :=
      ⟨formId, [.reference ⟨target, .null, .null⟩], some []⟩
    let ts : Tables := [("b", table "x" "c"), ("c", table "c" "b")]
    (resolve "a" (table "y" "b") [] ts none).outcome =
        .error (.routing (.cyclic ["a", "b", "c", "b"])) ∧
      Lasso (Refers ts (table "a" "b")) "a" ["a", "b", "c", "b"] ∧
      checkReferences ts (table "b" "c") = .error (.cyclic ["b", "c", "b"]) ∧
      Lasso (Refers ts (table "b" "c")) "b" ["b", "c", "b"] := by
  intro table ts
  have hitems (path chain : List String) (formId target : String) (fields : Option (List Field)) :
      inlined ts path chain (table formId target) fields =
        inlinedReference ts path chain fields ⟨target, .null, .null⟩ :=
    (inlined_of_ok rfl).trans (List.append_nil _)
  have hresolve : (resolve "a" (table "y" "b") [] ts none).outcome =
      .error (.routing (.cyclic ["a", "b", "c", "b"])) := by
    have hroot : (table "a" "b").formId = "a" := rfl
    have hb : ts.follow ["a"] "b" = .ok (table "x" "c") := rfl
    have hc : ts.follow ["a", "b"] "c" = .ok (table "c" "b") := rfl
    have hcycle : ts.follow ["a", "b", "c"] "b" = .error (.cyclic ["a", "b", "c", "b"]) := rfl
    refine (outcome_resolve_root ts (table "a" "b") [] none).trans ?_
    simp [hroot, hitems, inlinedReference, hb, hc, hcycle, Item.verdict]
  have hcheck : checkReferences ts (table "b" "c") = .error (.cyclic ["b", "c", "b"]) := by
    rw [checkReferences_eq_error_iff (by decide)]
    simp [table, ts, faultFrom_eq, faultAt, RouteTable.referenceIds, RouteTable.references,
      Route.reference?, Tables.follow, Tables.get?]
  obtain ⟨-, -, hlasso, hlasso'⟩ := resolution_bounded ts
  exact ⟨hresolve, hlasso _ _ _ _ _ hresolve, hcheck, hlasso' _ _ hcheck⟩

end SubmissionRouting
