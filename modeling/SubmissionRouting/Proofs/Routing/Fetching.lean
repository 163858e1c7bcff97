import SubmissionRouting.Proofs.Routing.Depth

/-! # Which tables are asked for

A table that is not at hand is asked for by its id. To say which tables are asked for, the walk and the
check are given a second form in which asking is a step of its own (`Fetch`, `resolveBy`,
`checkReferencesBy`): it may answer anything, write records, fail, and even know the path on which it is
asked. Calls that are nested too deep come to what `cut` says. Where stored tables answer, these are the
walk and the check that run (`resolveBy_stored`, `checkReferencesBy_stored`).

An id on the path is never asked for. So two ways to ask that agree wherever an id is not on the path
lead to the same run (`walkBy_congr`, `checkBy_congr`), whatever they answer for ids on the path. The
entry form is on every path, and so its own stored table has no say (`entry_never_fetched`). -/

namespace SubmissionRouting

/-! ### Asking -/

/-- A way to ask for the table of an id from the end of a path. -/
abbrev Fetch := List String → String → Journaled (Option RouteTable)

/-- Stored tables answer by the id alone. -/
def Tables.fetch (ts : Tables) : Fetch := fun _ id => pure (ts.get? id)

/-- The table that an id leads to, asked for unless the id is on the path. -/
def Fetch.follow (fetch : Fetch) (path : List String) (id : String) : Journaled RouteTable :=
  if id ∈ path then Journaled.fail (.routing (.cyclic (path ++ [id])))
  else do
    match ← fetch path id with
    | none => Journaled.fail (.routing (.formNotFound id))
    | some next => pure next

/-- The walk, with tables asked for and with so many nested calls at most. -/
def walkBy (fetch : Fetch) (response : Response) (cut : Journaled (Option Selection)) :
    ℕ → List String → RouteTable → Option (List Field) → Journaled (Option Selection)
  | 0, _, _, _ => cut
  | depth + 1, path, t, fields => do
    let context ← t.context response fields
    firstMatch t.formId context
      (fun r => do
        let next ← fetch.follow path r.id
        Journaled.write .debug .chain
          ("Following router reference " ++ r.id ++ " at depth " ++ decimalText path.length)
        let s ← walkBy fetch response cut depth (path ++ [r.id]) next (next.fields.or fields)
        pure (s.map (Selection.via t.formId)))
      t.routes

/-- The route for a response, with tables asked for. -/
def resolveBy (fetch : Fetch) (cut : Journaled (Option Selection)) (depth : ℕ) (formId : String)
    (t : RouteTable) (response : Response) (fields : Option (List Field)) : Journaled Selection := do
  let entry := { t with formId := formId }
  match ← walkBy fetch response cut depth [formId] entry fields with
  | some s => pure s
  | none => entry.selectFallback (← entry.context response fields)

/-- The check along a path, with tables asked for and with so many nested calls at most. -/
def checkBy (fetch : Fetch) (cut : Journaled Unit) : ℕ → List String → RouteTable → Journaled Unit
  | 0, _, _ => cut
  | depth + 1, path, t =>
    t.references.forM fun r => do
      let next ← fetch.follow path r.id
      checkBy fetch cut depth (path ++ [r.id]) next

/-- The check of a table, with tables asked for. -/
def checkReferencesBy (fetch : Fetch) (cut : Journaled Unit) (depth : ℕ) (t : RouteTable) :
    Journaled Unit :=
  if t.routes.any (Route.refersTo t.formId) then
    Journaled.fail (.routing (.selfReference t.formId))
  else checkBy fetch cut depth [t.formId] t

/-! ### Stored tables -/

namespace Journaled

variable {α β : Type}

/-- A result that can only be a routing fault, as a step without records. -/
def ofRouting (x : Except RoutingFault α) : Journaled α := ofResult (orRoutingFault x)

theorem ofRouting_injective {x y : Except RoutingFault α} (h : ofRouting x = ofRouting y) :
    x = y := by
  have houtcome : orRoutingFault x = orRoutingFault y := congrArg Journaled.outcome h
  cases x <;> cases y <;> cases houtcome <;> rfl

theorem ofRouting_bind (x : Except RoutingFault α) (f : α → Except RoutingFault β) :
    ofRouting (x >>= f) = ofRouting x >>= fun a => ofRouting (f a) := by
  cases x <;> rfl

theorem ofRouting_forM (f : α → Except RoutingFault Unit) (l : List α) :
    ofRouting (l.forM f) = l.forM fun a => ofRouting (f a) := by
  induction l with
  | nil => rfl
  | cons a l ih =>
    calc ofRouting ((a :: l).forM f)
        = ofRouting (f a >>= fun _ => l.forM f) := rfl
      _ = ofRouting (f a) >>= fun _ => l.forM fun b => ofRouting (f b) := by
        rw [ofRouting_bind, ih]

end Journaled

section
variable {ts : Tables} {path : List String}

theorem Tables.fetch_follow (ts : Tables) (path : List String) (id : String) :
    ts.fetch.follow path id = .ofRouting (ts.follow path id) := by
  unfold Fetch.follow
  by_cases hid : id ∈ path
  · rw [if_pos hid, Tables.follow_of_mem hid]
    rfl
  · rw [if_neg hid]
    show (pure (ts.get? id) >>= _) = _
    rw [pure_bind]
    cases hget : ts.get? id with
    | none => rw [Tables.follow_of_none hid hget]; rfl
    | some next => rw [Tables.follow_of_some hid hget]; rfl

theorem walkBy_stored (response : Response) (cut : Journaled (Option Selection)) {depth : ℕ}
    (t : RouteTable) (fields : Option (List Field)) (hs : Simple ts path)
    (hdepth : ts.ids.toFinset.card + 2 ≤ depth + path.length) :
    walkBy ts.fetch response cut depth path t fields = walk ts response path t fields := by
  induction depth generalizing path t fields with
  | zero =>
    -- no simple path is long enough to come here
    have := hs.length_le
    omega
  | succ depth ih =>
    rw [walkBy, walk_eq]
    congr 1
    funext context
    congr 1
    funext r
    unfold followReference
    rw [ts.fetch_follow]
    cases hnext : ts.follow path r.id with
    | error cause => rfl
    | ok next =>
      have hlong : (path ++ [r.id]).length = path.length + 1 := List.length_append
      show (pure next >>= _) = _
      rw [pure_bind, ih next _ (hs.follow hnext) (by omega)]

theorem resolveBy_stored (cut : Journaled (Option Selection)) {depth : ℕ}
    (hdepth : ts.ids.toFinset.card + 1 ≤ depth) (formId : String) (t : RouteTable)
    (response : Response) (fields : Option (List Field)) :
    resolveBy ts.fetch cut depth formId t response fields = resolve formId t response ts fields := by
  have hlong : ts.ids.toFinset.card + 2 ≤ depth + [formId].length := by
    rw [List.length_singleton]
    omega
  rw [resolveBy, walkBy_stored response cut _ fields (simple_singleton ts formId) hlong]
  rfl

theorem checkBy_stored (cut : Journaled Unit) {depth : ℕ} (t : RouteTable) (hs : Simple ts path)
    (hdepth : ts.ids.toFinset.card + 2 ≤ depth + path.length) :
    checkBy ts.fetch cut depth path t = .ofRouting (checkReferencesFrom ts path t) := by
  induction depth generalizing path t with
  | zero =>
    have := hs.length_le
    omega
  | succ depth ih =>
    rw [checkBy, checkReferencesFrom_eq, Journaled.ofRouting_forM]
    congr 1
    funext r
    rw [ts.fetch_follow, Journaled.ofRouting_bind]
    cases hnext : ts.follow path r.id with
    | error cause => rfl
    | ok next =>
      have hlong : (path ++ [r.id]).length = path.length + 1 := List.length_append
      show (pure next >>= _) = (pure next >>= _)
      rw [pure_bind, pure_bind]
      exact ih next (hs.follow hnext) (by omega)

theorem checkReferencesBy_stored (cut : Journaled Unit) {depth : ℕ}
    (hdepth : ts.ids.toFinset.card + 1 ≤ depth) (t : RouteTable) :
    checkReferencesBy ts.fetch cut depth t = .ofRouting (checkReferences ts t) := by
  have hlong : ts.ids.toFinset.card + 2 ≤ depth + [t.formId].length := by
    rw [List.length_singleton]
    omega
  unfold checkReferencesBy checkReferences
  split_ifs
  · rfl
  · exact checkBy_stored cut t (simple_singleton ts t.formId) hlong

end

/-! ### Ids on the path are not asked for -/

/-- Two ways to ask agree on paths from an entry form, wherever the id that is asked for is not on the
path. For an id that is on it they may do anything. -/
def AgreeOffPath (entry : String) (fetch fetch' : Fetch) : Prop :=
  ∀ path id, entry ∈ path → id ∉ path → fetch path id = fetch' path id

section
variable {entry : String} {fetch fetch' : Fetch} {path : List String}

theorem AgreeOffPath.follow_eq (h : AgreeOffPath entry fetch fetch') (hpath : entry ∈ path)
    (id : String) : fetch.follow path id = fetch'.follow path id := by
  unfold Fetch.follow
  by_cases hid : id ∈ path
  · rw [if_pos hid, if_pos hid]
  · rw [if_neg hid, if_neg hid, h path id hpath hid]

/-- Ways to ask that know all tables but that of the entry form agree. -/
theorem agreeOffPath_of_ne (h : ∀ path id, id ≠ entry → fetch path id = fetch' path id) :
    AgreeOffPath entry fetch fetch' := fun path id hpath hid =>
  h path id fun heq => hid (heq ▸ hpath)

/-- **The walk does not ask for an id on the path.** -/
theorem walkBy_congr (h : AgreeOffPath entry fetch fetch') (response : Response)
    (cut : Journaled (Option Selection)) (depth : ℕ) (hpath : entry ∈ path) (t : RouteTable)
    (fields : Option (List Field)) :
    walkBy fetch response cut depth path t fields =
      walkBy fetch' response cut depth path t fields := by
  induction depth generalizing path t fields with
  | zero => rfl
  | succ depth ih =>
    rw [walkBy, walkBy]
    congr 1
    funext context
    congr 1
    funext r
    have hlonger : entry ∈ path ++ [r.id] := List.mem_append_left _ hpath
    simp only [h.follow_eq hpath r.id, ih hlonger]

theorem checkBy_congr (h : AgreeOffPath entry fetch fetch') (cut : Journaled Unit) (depth : ℕ)
    (hpath : entry ∈ path) (t : RouteTable) :
    checkBy fetch cut depth path t = checkBy fetch' cut depth path t := by
  induction depth generalizing path t with
  | zero => rfl
  | succ depth ih =>
    rw [checkBy, checkBy]
    congr 1
    funext r
    have hlonger : entry ∈ path ++ [r.id] := List.mem_append_left _ hpath
    simp only [h.follow_eq hpath r.id, ih hlonger]

theorem resolveBy_congr (h : AgreeOffPath entry fetch fetch') (cut : Journaled (Option Selection))
    (depth : ℕ) (t : RouteTable) (response : Response) (fields : Option (List Field)) :
    resolveBy fetch cut depth entry t response fields =
      resolveBy fetch' cut depth entry t response fields := by
  have hpath : entry ∈ [entry] := List.mem_singleton_self entry
  rw [resolveBy, walkBy_congr h response cut depth hpath]
  rfl

theorem checkReferencesBy_congr (h : AgreeOffPath entry fetch fetch') (cut : Journaled Unit)
    (depth : ℕ) {t : RouteTable} (ht : t.formId = entry) :
    checkReferencesBy fetch cut depth t = checkReferencesBy fetch' cut depth t := by
  have hpath : entry ∈ [t.formId] := by rw [ht]; exact List.mem_singleton_self entry
  unfold checkReferencesBy
  rw [checkBy_congr h cut depth hpath]

end

/-! ### The entry form -/

theorem exists_depth (ts ts' : Tables) :
    ∃ depth, ts.ids.toFinset.card + 1 ≤ depth ∧ ts'.ids.toFinset.card + 1 ≤ depth :=
  ⟨_, le_max_left _ _, le_max_right _ _⟩

section
variable {entry : String} {ts ts' : Tables}

theorem agreeOffPath_fetch (h : ∀ id, id ≠ entry → ts.get? id = ts'.get? id) :
    AgreeOffPath entry ts.fetch ts'.fetch :=
  agreeOffPath_of_ne fun _ id hid => congrArg pure (h id hid)

theorem resolve_congr (h : ∀ id, id ≠ entry → ts.get? id = ts'.get? id) (t : RouteTable)
    (response : Response) (fields : Option (List Field)) :
    resolve entry t response ts fields = resolve entry t response ts' fields := by
  obtain ⟨depth, hts, hts'⟩ := exists_depth ts ts'
  let cut : Journaled (Option Selection) := pure none
  rw [← resolveBy_stored cut hts, ← resolveBy_stored cut hts',
    resolveBy_congr (agreeOffPath_fetch h)]

theorem checkReferences_congr (h : ∀ id, id ≠ entry → ts.get? id = ts'.get? id) {t : RouteTable}
    (ht : t.formId = entry) : checkReferences ts t = checkReferences ts' t := by
  obtain ⟨depth, hts, hts'⟩ := exists_depth ts ts'
  have hsame : Journaled.ofRouting (checkReferences ts t) = .ofRouting (checkReferences ts' t) := by
    rw [← checkReferencesBy_stored (pure ()) hts, ← checkReferencesBy_stored (pure ()) hts',
      checkReferencesBy_congr (agreeOffPath_fetch h) _ _ ht]
  exact Journaled.ofRouting_injective hsame

end

/-- **The stored table of the entry form is never asked for.** Two stores that differ at the id of the
entry form alone lead to the same resolution, with the same journal, and to the same check. And no id on
the path is asked for, whoever answers: two ways to ask that agree off the path lead to the same runs,
however deep, even if one of them fails for every id on the path. Where stored tables answer, these are
the runs of the walk and the check. -/
theorem entry_never_fetched (entry : String) :
    (∀ ts ts' : Tables, (∀ id, id ≠ entry → ts.get? id = ts'.get? id) →
      (∀ t response fields,
        resolve entry t response ts fields = resolve entry t response ts' fields) ∧
      ∀ t : RouteTable, t.formId = entry → checkReferences ts t = checkReferences ts' t) ∧
    (∀ fetch fetch', AgreeOffPath entry fetch fetch' →
      (∀ cut depth t response fields,
        resolveBy fetch cut depth entry t response fields =
          resolveBy fetch' cut depth entry t response fields) ∧
      ∀ cut depth t, t.formId = entry →
        checkReferencesBy fetch cut depth t = checkReferencesBy fetch' cut depth t) ∧
    ∀ (ts : Tables) depth, ts.ids.toFinset.card + 1 ≤ depth →
      (∀ cut t response fields,
        resolveBy ts.fetch cut depth entry t response fields =
          resolve entry t response ts fields) ∧
      ∀ cut t, checkReferencesBy ts.fetch cut depth t = .ofRouting (checkReferences ts t) := by
  refine ⟨fun ts ts' h => ?_, fun fetch fetch' h => ?_, fun ts depth hdepth => ?_⟩
  · exact ⟨resolve_congr h, fun t ht => checkReferences_congr h ht⟩
  · exact ⟨fun cut depth => resolveBy_congr h cut depth,
      fun cut depth t ht => checkReferencesBy_congr h cut depth ht⟩
  · exact ⟨fun cut => resolveBy_stored cut hdepth entry,
      fun cut => checkReferencesBy_stored cut hdepth⟩

/-- A table whose reference leads back to it, and a stored copy of it without any routes: the cycle is
found all the same, and the copy may as well not be there, or be one that nobody may ask for. -/
theorem entry_never_fetched_stale_copy :
    let a : RouteTable := ⟨"a", [.reference ⟨"b", .null, .null⟩], some []⟩
    let b : RouteTable := ⟨"b", [.reference ⟨"a", .null, .null⟩], some []⟩
    let stale : Tables := [("a", ⟨"a", [], some []⟩), ("b", b)]
    let forbidden : Fetch := fun path id =>
      if id ∈ path then Journaled.fail .missingCondition else stale.fetch path id
    resolve "a" a [] stale none = resolve "a" a [] [("b", b)] none ∧
      checkReferences stale a = checkReferences [("b", b)] a ∧
      checkReferences stale a = .error (.cyclic ["a", "b", "a"]) ∧
      resolveBy forbidden (pure none) 3 "a" a [] none = resolve "a" a [] stale none ∧
      checkReferencesBy forbidden (pure ()) 3 a = .ofRouting (.error (.cyclic ["a", "b", "a"])) := by
  intro a b stale forbidden
  obtain ⟨hstores, hways, hstored⟩ := entry_never_fetched "a"
  have hothers (id : String) (hid : id ≠ "a") : stale.get? id = Tables.get? [("b", b)] id := by
    simp [stale, Tables.get?, Ne.symm hid]
  have hagree : AgreeOffPath "a" forbidden stale.fetch := fun path id _ hid => if_neg hid
  have hdepth : stale.ids.toFinset.card + 1 ≤ 3 := by decide
  have hcycle : checkReferences stale a = .error (.cyclic ["a", "b", "a"]) := by
    rw [checkReferences_eq_error_iff (by decide)]
    simp [a, b, stale, faultFrom_eq, faultAt, RouteTable.referenceIds, RouteTable.references,
      Route.reference?, Tables.follow, Tables.get?]
  obtain ⟨hresolve, hcheck⟩ := hstores _ _ hothers
  obtain ⟨hresolveBy, hcheckBy⟩ := hways _ _ hagree
  obtain ⟨hrun, hrunCheck⟩ := hstored stale 3 hdepth
  refine ⟨hresolve a [] none, hcheck a rfl, hcycle, ?_, ?_⟩
  · rw [hresolveBy, hrun]
  · rw [hcheckBy _ _ a rfl, hrunCheck, hcycle]

end SubmissionRouting
