import SubmissionRouting.Routing.Chain

/-! # References between forms

The references of all forms make a directed graph. It is checked when a table is saved, and it says
which references can be added without closing a cycle.

* `checkReferences`: every form that can be reached is stored, and no path enters a form twice.
* `connectedForms`: the forms that refer to a form.
* `referrers`: the forms that reach a form.
* `availableRouters`: the references that can be added to a form.
* `findReferenceCycle`: a cycle of references. -/

namespace SubmissionRouting

/-! ### Checking a table -/

/-- The references of a table, and those of the tables that it reaches, are stored and lead nowhere
twice along a path. -/
def checkReferencesFrom (ts : Tables) (path : List String) (t : RouteTable) :
    Except RoutingFault Unit :=
  t.references.forM fun r =>
    if _ : r.id ∈ path then .error (.cyclic (path ++ [r.id]))
    else
      match _ : ts.get? r.id with
      | none => .error (.formNotFound r.id)
      | some next => checkReferencesFrom ts (path ++ [r.id]) next
termination_by unvisited ts.ids path
decreasing_by exact unvisited_append_lt (Tables.mem_ids_of_get? ‹_›) ‹_›

/-- The references of a table are sound. That a table does not refer to its own form is checked
first. -/
def checkReferences (ts : Tables) (t : RouteTable) : Except RoutingFault Unit :=
  if t.routes.any (Route.refersTo t.formId) then .error (.selfReference t.formId)
  else checkReferencesFrom ts [t.formId] t

/-! ### The graph of forms -/

/-- The form has a route that refers to an id. -/
def Form.refersTo (f : Form) (id : String) : Bool := f.routes.any (Route.refersTo id)

/-- The ids that a form refers to. -/
def Form.referenceIds (f : Form) : List String := (f.routes.filterMap Route.reference?).map (·.id)

/-- The forms that refer to an id. -/
def connectedForms (id : String) (forms : List Form) : List Form :=
  forms.filter fun f => f.refersTo id

/-! ### The forms that reach an id -/

/-- For each id that is referred to, the ids of the forms that refer to it, each of them once. -/
abbrev Incoming := List (String × List String)

namespace Incoming

/-- The ids of the forms that refer to an id. -/
def sources (incoming : Incoming) (id : String) : List String := (incoming.lookup id).getD []

/-- All ids of forms that refer to some id. -/
def allSources (incoming : Incoming) : List String := incoming.flatMap (·.2)

/-- Notes that a form refers to an id. -/
def note (source : String) : Incoming → String → Incoming
  | [], id => [(id, [source])]
  | (target, sources) :: rest, id =>
    if id == target then (target, sources.insert source) :: rest
    else (target, sources) :: note source rest id

/-- The references of all forms. -/
def ofForms (forms : List Form) : Incoming :=
  forms.foldl (fun incoming f => f.referenceIds.foldl (note f.id) incoming) []

theorem sources_subset (incoming : Incoming) (id : String) :
    incoming.sources id ⊆ incoming.allSources := by
  intro x hx
  unfold sources at hx
  cases hsome : incoming.lookup id with
  | none => simp [hsome] at hx
  | some sources =>
    obtain ⟨before, after, rfl, -⟩ := List.lookup_eq_some_iff.1 hsome
    rw [hsome, Option.getD_some] at hx
    exact List.mem_flatMap.2 ⟨(id, sources), by simp, hx⟩

end Incoming

/-- What was found on the way back from an id, and what of it waits to be taken up; the last that was
found is taken up first. -/
structure Pursuit where
  found : List String
  stack : List String

namespace Pursuit

/-- Finds an id, unless it was found before. -/
def find (p : Pursuit) (id : String) : Pursuit :=
  if id ∈ p.found then p else ⟨id :: p.found, id :: p.stack⟩

/-- The number of ids that are not found yet or wait. -/
def pending (ids : List String) (p : Pursuit) : Nat := unvisited ids p.found + p.stack.length

theorem pending_find_le {ids : List String} {id : String} (h : id ∈ ids) (p : Pursuit) :
    (p.find id).pending ids ≤ p.pending ids := by
  unfold find
  split
  · exact Nat.le_refl _
  · next hnew =>
    have := unvisited_lt (List.subset_cons_self id p.found) h hnew List.mem_cons_self
    simp only [pending, List.length_cons]
    omega

theorem pending_foldl_le {ids found : List String} (h : found ⊆ ids) (p : Pursuit) :
    (found.foldl find p).pending ids ≤ p.pending ids := by
  induction found generalizing p with
  | nil => exact Nat.le_refl _
  | cons id found ih =>
    rw [List.foldl_cons]
    exact Nat.le_trans (ih (fun _ hx => h (List.mem_cons_of_mem id hx)) (p.find id))
      (pending_find_le (h List.mem_cons_self) p)

/-- Takes up what waits, until nothing does. -/
def exhaust (incoming : Incoming) (p : Pursuit) : List String :=
  match _ : p.stack with
  | [] => p.found
  | id :: stack => exhaust incoming ((incoming.sources id).foldl find ⟨p.found, stack⟩)
termination_by p.pending incoming.allSources
decreasing_by
  refine Nat.lt_of_le_of_lt (pending_foldl_le (incoming.sources_subset id) _) ?_
  simp only [pending, ‹p.stack = _›, List.length_cons]
  omega

end Pursuit

/-- The ids of the forms that reach an id. -/
def referrers (forms : List Form) (id : String) : List String :=
  Pursuit.exhaust (Incoming.ofForms forms) ⟨[], [id]⟩

/-! ### The references that can be added -/

/-- Two forms belong to the same team, or, if neither belongs to a team, to the same user. -/
def Form.sameOwner (f g : Form) : Bool :=
  if f.isTeamForm || g.isTeamForm then f.team.same g.team else f.user.same g.user

/-- A form can be referred to by another one, which is reached from forms with the given ids. -/
def Form.isAvailableTo (g f : Form) (reaching : List String) : Bool :=
  g.id != f.id && g.sameOwner f && !(f.routes.any fun r => r.id == g.id) && !reaching.contains g.id

/-- The reference to a form. -/
def Form.reference (f : Form) : RouterReference := ⟨f.id, f.name, f.description⟩

/-- The references that can be added to a form. -/
def availableRouters (f : Form) (forms : List Form) : List RouterReference :=
  let reaching := referrers forms f.id
  (forms.filter fun g => g.isAvailableTo f reaching).map Form.reference

/-! ### Cycles -/

/-- The last form with an id. -/
def lastForm? (forms : List Form) (id : String) : Option Form :=
  forms.reverse.find? fun f => f.id == id

theorem mem_ids_of_lastForm? {forms : List Form} {id : String} {f : Form}
    (h : lastForm? forms id = some f) : id ∈ forms.map (·.id) := by
  have hid : f.id = id := by simpa using List.find?_some h
  have hmem : f ∈ forms := by simpa using List.mem_of_find?_eq_some h
  exact List.mem_map.2 ⟨f, hmem, hid⟩

/-- The ids that an id leads to, in order. -/
def nextIds (forms : List Form) (id : String) : List String :=
  match lastForm? forms id with
  | none => []
  | some f => f.referenceIds

/-- What a search for a cycle has seen: all ids visited so far, and those that are in progress, the
latest first. -/
structure Search where
  visited : List String
  underway : List String

/-- How a search ends early: with a cycle, or with an id that is not where it was left. -/
inductive SearchEnd where
  | cycle (ids : List String)
  | lost (id : String)

namespace Search

/-- Takes up an id. -/
def enter (s : Search) (id : String) : Search := ⟨id :: s.visited, id :: s.underway⟩

/-- The ids in progress once one of them is done. -/
def leave (s : Search) (id : String) : Except SearchEnd (List String) :=
  if id ∈ s.underway then .ok (s.underway.erase id) else .error (.lost id)

end Search

/-- The cycle that an id on a path closes. -/
def closing (path : List String) (id : String) : SearchEnd :=
  match path.idxOf? id with
  | some n => .cycle (path.drop n ++ [id])
  | none => .lost id

theorem nextIds_eq_nil {forms : List Form} {id : String} (h : id ∉ forms.map (·.id)) :
    nextIds forms id = [] := by
  unfold nextIds
  split
  · rfl
  · next f hf => exact absurd (mem_ids_of_lastForm? hf) h

/-- Goes on from the end of a path to the given ids and to all that they lead to. An id that is not
visited is taken up, and one in progress closes a cycle. No visited id is forgotten on the way. -/
def exploreOn (forms : List Form) (path : List String) (s : Search) (ids : List String) :
    Except SearchEnd {t : Search // s.visited ⊆ t.visited} :=
  match ids with
  | [] => .ok ⟨s, List.Subset.refl _⟩
  | id :: ids =>
    if _ : id ∈ s.visited then
      if id ∈ s.underway then .error (closing path id) else exploreOn forms path s ids
    else do
      let ⟨t, ht⟩ ← exploreOn forms (path ++ [id]) (s.enter id) (nextIds forms id)
      let underway ← t.leave id
      let ⟨u, hu⟩ ← exploreOn forms path ⟨t.visited, underway⟩ ids
      .ok ⟨u, fun _ hx => hu (ht (List.mem_cons_of_mem id hx))⟩
termination_by (unvisited (forms.map (·.id)) s.visited, ids.length)
decreasing_by
  · exact Prod.Lex.right _ (Nat.lt_succ_self _)
  · by_cases hid : id ∈ forms.map (·.id)
    · exact Prod.Lex.left _ _ (unvisited_lt (List.subset_cons_self ..) hid ‹_› List.mem_cons_self)
    · rw [nextIds_eq_nil hid]
      exact Prod.Lex.right' _ (unvisited_le (List.subset_cons_self ..)) (Nat.succ_pos _)
  · exact Prod.Lex.right' _ (unvisited_le fun _ hx => ht (List.mem_cons_of_mem id hx))
      (Nat.lt_succ_self _)

/-- The state of a search once it has gone on to the given ids. -/
def explore (forms : List Form) (path : List String) (s : Search) (ids : List String) :
    Except SearchEnd Search :=
  (exploreOn forms path s ids).map (·.1)

/-- Searches from one more id, unless it was visited. -/
def searchFrom (forms : List Form) (visited : List String) (id : String) :
    Except SearchEnd (List String) :=
  if id ∈ visited then .ok visited
  else do
    let t ← explore forms [id] ⟨id :: visited, [id]⟩ (nextIds forms id)
    let _ ← t.leave id
    .ok t.visited

/-- A cycle of references: ids, of which the last is the first again. -/
def findReferenceCycle (forms : List Form) : Option (List String) :=
  match (forms.map (·.id)).foldlM (searchFrom forms) [] with
  | .error (.cycle ids) => some ids
  | .error (.lost _) | .ok _ => none

section
variable {forms : List Form} {path ids : List String} {s : Search} {id : String}

theorem explore_nil : explore forms path s [] = .ok s := by
  rw [explore, exploreOn]
  rfl

theorem explore_of_underway (hvisited : id ∈ s.visited) (hunderway : id ∈ s.underway) :
    explore forms path s (id :: ids) = .error (closing path id) := by
  rw [explore, exploreOn, dif_pos hvisited, if_pos hunderway]
  rfl

theorem explore_of_visited (hvisited : id ∈ s.visited) (hunderway : id ∉ s.underway) :
    explore forms path s (id :: ids) = explore forms path s ids := by
  rw [explore, exploreOn, dif_pos hvisited, if_neg hunderway]
  rfl

theorem explore_of_new (hvisited : id ∉ s.visited) :
    explore forms path s (id :: ids) = (do
      let t ← explore forms (path ++ [id]) (s.enter id) (nextIds forms id)
      let underway ← t.leave id
      explore forms path ⟨t.visited, underway⟩ ids) := by
  rw [explore, exploreOn, dif_neg hvisited]
  unfold explore
  cases exploreOn forms (path ++ [id]) (s.enter id) (nextIds forms id) with
  | error e => rfl
  | ok t =>
    obtain ⟨t, ht⟩ := t
    show Except.map _ (t.leave id >>= _) = t.leave id >>= _
    cases t.leave id with
    | error e => rfl
    | ok underway =>
      show Except.map _ (exploreOn forms path ⟨t.visited, underway⟩ ids >>= _) =
        Except.map _ (exploreOn forms path ⟨t.visited, underway⟩ ids)
      cases exploreOn forms path ⟨t.visited, underway⟩ ids <;> rfl

theorem visited_subset_of_explore {t : Search} (h : explore forms path s ids = .ok t) :
    s.visited ⊆ t.visited := by
  unfold explore at h
  cases hon : exploreOn forms path s ids with
  | error e => rw [hon] at h; cases h
  | ok u => rw [hon] at h; cases h; exact u.2

end

end SubmissionRouting
