import SubmissionRouting.Proofs.FirstFault
import SubmissionRouting.Proofs.Routing.FormGraph

/-! # The search for a cycle

The search goes along all paths of the graph of forms. It keeps three records: the path, the ids in
progress, and all ids visited so far. They belong together (`Search.OnPath`): the ids in progress are
those on the path, the latest first, so that an id in progress is found on the path and closes a
circuit there. An id that was visited and is no longer in progress is finished: what it leads to is
finished as well, and it is not reached from itself (`Finished`). So the search may pass over it, and
if all ids are finished at the end, there is no cycle (`reports_explore`). -/

namespace SubmissionRouting

open Relation

section
variable {forms : List Form} {path ids visited : List String} {s t : Search} {id : String}

/-! ### Finished ids -/

/-- Every visited id that is not on the path leads to such ids only, and is not reached from
itself. -/
def Finished (forms : List Form) (path visited : List String) : Prop :=
  ∀ x ∈ visited, x ∉ path →
    (∀ y, Leads forms x y → y ∈ visited ∧ y ∉ path) ∧ ¬ TransGen (Leads forms) x x

theorem Finished.of_reaches (h : Finished forms path visited) {x y : String} (hx : x ∈ visited)
    (hpath : x ∉ path) (hxy : ReflTransGen (Leads forms) x y) : y ∈ visited ∧ y ∉ path := by
  induction hxy with
  | refl => exact ⟨hx, hpath⟩
  | tail _ hbc ih => exact (h _ ih.1 ih.2).1 _ hbc

theorem Finished.push (h : Finished forms path visited) (hid : id ∉ visited) :
    Finished forms (path ++ [id]) (id :: visited) := by
  intro x hx hpath
  rw [List.mem_append, List.mem_singleton, not_or] at hpath
  have hxvis : x ∈ visited := (List.mem_cons.mp hx).resolve_left hpath.2
  obtain ⟨hnext, hac⟩ := h x hxvis hpath.1
  refine ⟨fun y hy => ?_, hac⟩
  obtain ⟨hyvis, hypath⟩ := hnext y hy
  refine ⟨List.mem_cons_of_mem id hyvis, ?_⟩
  rw [List.mem_append, List.mem_singleton, not_or]
  exact ⟨hypath, ne_of_mem_of_not_mem hyvis hid⟩

theorem Finished.pop (h : Finished forms (path ++ [id]) visited)
    (hnext : ∀ y, Leads forms id y → y ∈ visited ∧ y ∉ path ++ [id]) :
    Finished forms path visited := by
  have hsub : ∀ {y}, y ∉ path ++ [id] → y ∉ path := fun hy hmem =>
    hy (List.mem_append_left _ hmem)
  intro x hx hpath
  by_cases hxid : x = id
  · subst hxid
    refine ⟨fun y hy => ⟨(hnext y hy).1, hsub (hnext y hy).2⟩, fun hcycle => ?_⟩
    -- a cycle through `x` would go on from a finished id and come back to `x`, which is on the path
    obtain ⟨y, hxy, hyx⟩ := TransGen.head'_iff.mp hcycle
    obtain ⟨hyvis, hypath⟩ := hnext y hxy
    exact (h.of_reaches hyvis hypath hyx).2 (by simp)
  · obtain ⟨hsucc, hac⟩ := h x hx (by simp [hpath, hxid])
    exact ⟨fun y hy => ⟨(hsucc y hy).1, hsub (hsucc y hy).2⟩, hac⟩

/-! ### The records of a search -/

/-- The ids in progress are those on the path, which are distinct and visited, and all other visited
ids are finished. -/
structure Search.OnPath (forms : List Form) (path : List String) (s : Search) : Prop where
  underway : s.underway = path.reverse
  visited : path ⊆ s.visited
  distinct : path.Nodup
  finished : Finished forms path s.visited

namespace Search.OnPath

theorem mem_underway_iff (h : s.OnPath forms path) : id ∈ s.underway ↔ id ∈ path := by
  rw [h.underway, List.mem_reverse]

theorem enter (h : s.OnPath forms path) (hid : id ∉ s.visited) :
    (s.enter id).OnPath forms (path ++ [id]) := by
  refine ⟨?_, ?_, nodup_snoc h.distinct fun hpath => hid (h.visited hpath), h.finished.push hid⟩
  · show id :: s.underway = _
    rw [h.underway, List.reverse_append]
    rfl
  · refine List.append_subset.mpr ⟨fun x hx => List.mem_cons_of_mem id (h.visited hx), ?_⟩
    exact List.cons_subset.mpr ⟨List.mem_cons_self, List.nil_subset _⟩

theorem leave_eq (h : t.OnPath forms (path ++ [id])) : t.leave id = .ok path.reverse := by
  have hunderway : t.underway = id :: path.reverse := by
    rw [h.underway, List.reverse_append]
    rfl
  rw [Search.leave, hunderway, if_pos List.mem_cons_self, List.erase_cons_head]

theorem leave (h : t.OnPath forms (path ++ [id]))
    (hnext : ∀ y, Leads forms id y → y ∈ t.visited ∧ y ∉ path ++ [id]) :
    Search.OnPath forms path ⟨t.visited, path.reverse⟩ :=
  ⟨rfl, fun _ hx => h.visited (List.mem_append_left _ hx), (List.nodup_append.mp h.distinct).1,
    h.finished.pop hnext⟩

end Search.OnPath

/-! ### Circuits -/

/-- A search that ends early has met a circuit, and has lost no id. -/
def SearchEnd.Sound (forms : List Form) : SearchEnd → Prop
  | cycle ids => Circuit (Leads forms) ids
  | lost _ => False

theorem closing_eq {before after : List String} (h : id ∉ before) :
    closing (before ++ id :: after) id = .cycle (id :: after ++ [id]) := by
  have hplace : (before ++ id :: after).idxOf? id = some before.length := by
    rw [List.idxOf?_eq_some_iff]
    refine ⟨by simp, by simp, fun n hn => ?_⟩
    rw [List.getElem_append_left hn]
    exact ne_of_mem_of_not_mem (List.getElem_mem hn) h
  rw [closing, hplace]
  dsimp only
  rw [List.drop_left]

/-- From an id on a path of distinct ids, an edge from the end of the path closes a circuit. -/
theorem sound_closing (hedges : (path ++ [id]).IsChain (Leads forms)) (hnodup : path.Nodup)
    (hid : id ∈ path) : (closing path id).Sound forms := by
  obtain ⟨before, after, rfl, hbefore⟩ := List.eq_append_cons_of_mem hid
  rw [closing_eq hbefore]
  rw [List.append_assoc] at hedges
  refine ⟨by simp, by rw [List.getLast?_concat]; rfl, ?_, hedges.right_of_append⟩
  rw [List.dropLast_concat]
  exact (List.nodup_append.mp hnodup).2.1

/-! ### What a search comes to -/

/-- The state of the search after some ids. -/
structure Explored (forms : List Form) (path ids : List String) (t : Search) : Prop where
  onPath : t.OnPath forms path
  covers : ∀ id ∈ ids, id ∈ t.visited ∧ id ∉ path

/-- A search has finished the ids that it was given, or has met a circuit. -/
def Reports (forms : List Form) (path ids : List String) : Except SearchEnd Search → Prop
  | .ok t => Explored forms path ids t
  | .error e => e.Sound forms

theorem Explored.cons (hid : id ∈ s.visited ∧ id ∉ path)
    (hgrows : s.visited ⊆ t.visited) (h : Explored forms path ids t) :
    Explored forms path (id :: ids) t :=
  ⟨h.onPath, List.forall_mem_cons.mpr ⟨⟨hgrows hid.1, hid.2⟩, h.covers⟩⟩

/-- Once all is finished that an id leads to, so is the id, and the search is back on the path to it. -/
theorem Explored.leave (h : Explored forms (path ++ [id]) (nextIds forms id) t) :
    t.leave id = .ok path.reverse ∧ Search.OnPath forms path ⟨t.visited, path.reverse⟩ :=
  ⟨h.onPath.leave_eq, h.onPath.leave fun y hy => h.covers y (mem_nextIds_iff.mpr hy)⟩

theorem reports_cons (hid : id ∈ s.visited ∧ id ∉ path)
    (h : Reports forms path ids (explore forms path s ids)) :
    Reports forms path (id :: ids) (explore forms path s ids) := by
  cases hrest : explore forms path s ids with
  | error e =>
    rw [hrest] at h
    exact h
  | ok t =>
    rw [hrest] at h
    exact Explored.cons hid (visited_subset_of_explore hrest) h

/-- **What a search comes to**, if the path goes along edges to the ids that it is given. -/
theorem reports_explore (h : s.OnPath forms path)
    (hedges : ∀ id ∈ ids, (path ++ [id]).IsChain (Leads forms)) :
    Reports forms path ids (explore forms path s ids) := by
  induction path, s, ids using exploreOn.induct forms with
  | case1 path s =>
    rw [explore_nil]
    exact ⟨h, nofun⟩
  | case2 path s id ids hvisited hunderway =>
    rw [explore_of_underway hvisited hunderway]
    exact sound_closing (hedges id List.mem_cons_self) h.distinct (h.mem_underway_iff.mp hunderway)
  | case3 path s id ids hvisited hunderway ih =>
    rw [explore_of_visited hvisited hunderway]
    exact reports_cons ⟨hvisited, fun hid => hunderway (h.mem_underway_iff.mpr hid)⟩
      (ih h fun next hnext => hedges next (List.mem_cons_of_mem id hnext))
  | case4 path s id ids hvisited ihinner ihrest =>
    have hpath : id ∉ path := fun hid => hvisited (h.visited hid)
    have hinner := ihinner (h.enter hvisited) fun next hnext => by
      refine isChain_snoc (hedges id List.mem_cons_self) fun x hx => ?_
      rw [List.getLast?_concat] at hx
      cases hx
      exact mem_nextIds_iff.mp hnext
    rw [explore_of_new hvisited]
    cases hbehind : explore forms (path ++ [id]) (s.enter id) (nextIds forms id) with
    | error e =>
      rw [hbehind] at hinner
      exact hinner
    | ok t =>
      rw [hbehind] at hinner
      have hgrows := visited_subset_of_explore hbehind
      obtain ⟨hunderway, hleft⟩ := hinner.leave
      rw [ok_bind, hunderway, ok_bind]
      exact reports_cons ⟨hgrows List.mem_cons_self, hpath⟩
        (ihrest t hgrows path.reverse hleft
          fun next hnext => hedges next (List.mem_cons_of_mem id hnext))

end

/-! ### The search over all forms -/

section
variable {forms : List Form} {ids visited : List String} {id : String}

theorem onPath_singleton (h : Finished forms [] visited) (hid : id ∉ visited) :
    Search.OnPath forms [id] ⟨id :: visited, [id]⟩ :=
  have hstart : Search.OnPath forms [] ⟨visited, []⟩ :=
    ⟨rfl, List.nil_subset _, List.nodup_nil, h⟩
  hstart.enter hid

/-- The visited ids after a search that has not ended early are finished. -/
def AllFinished (forms : List Form) (ids visited : List String) :
    Except SearchEnd (List String) → Prop
  | .ok visited' => Finished forms [] visited' ∧ visited ⊆ visited' ∧ ids ⊆ visited'
  | .error e => e.Sound forms

theorem allFinished_searchFrom (h : Finished forms [] visited) :
    AllFinished forms [id] visited (searchFrom forms visited id) := by
  unfold searchFrom
  split
  · next hid => exact ⟨h, List.Subset.refl _, List.cons_subset.mpr ⟨hid, List.nil_subset _⟩⟩
  · next hid =>
    have hbehind : Reports forms [id] (nextIds forms id)
        (explore forms [id] ⟨id :: visited, [id]⟩ (nextIds forms id)) :=
      reports_explore (onPath_singleton h hid) fun next hnext =>
        List.isChain_pair.mpr (mem_nextIds_iff.mp hnext)
    cases hexplored : explore forms [id] ⟨id :: visited, [id]⟩ (nextIds forms id) with
    | error e =>
      rw [hexplored] at hbehind
      exact hbehind
    | ok t =>
      rw [hexplored] at hbehind
      have hgrows := visited_subset_of_explore hexplored
      have hdone : Explored forms ([] ++ [id]) (nextIds forms id) t := hbehind
      obtain ⟨hunderway, hleft⟩ := hdone.leave
      rw [ok_bind, hunderway, ok_bind]
      exact ⟨hleft.finished, fun x hx => hgrows (List.mem_cons_of_mem id hx),
        List.cons_subset.mpr ⟨hgrows List.mem_cons_self, List.nil_subset _⟩⟩

theorem allFinished_foldlM (h : Finished forms [] visited) :
    AllFinished forms ids visited (ids.foldlM (searchFrom forms) visited) := by
  induction ids generalizing visited with
  | nil => exact ⟨h, List.Subset.refl _, List.nil_subset _⟩
  | cons id ids ih =>
    have hfirst : AllFinished forms [id] visited (searchFrom forms visited id) :=
      allFinished_searchFrom h
    rw [List.foldlM_cons]
    cases hsearched : searchFrom forms visited id with
    | error e =>
      rw [hsearched] at hfirst
      exact hfirst
    | ok mid =>
      rw [hsearched] at hfirst
      obtain ⟨hfinished, hgrows, hid⟩ := hfirst
      have hrest := ih hfinished
      rw [ok_bind]
      cases hall : ids.foldlM (searchFrom forms) mid with
      | error e =>
        rw [hall] at hrest
        exact hrest
      | ok visited' =>
        rw [hall] at hrest
        obtain ⟨hfinished', hgrows', hids⟩ := hrest
        exact ⟨hfinished', List.Subset.trans hgrows hgrows',
          List.cons_subset.mpr ⟨hgrows' (hid List.mem_cons_self), hids⟩⟩

variable (forms) in
theorem allFinished_all :
    AllFinished forms (forms.map (·.id)) [] ((forms.map (·.id)).foldlM (searchFrom forms) []) :=
  allFinished_foldlM fun _ hx => absurd hx List.not_mem_nil

theorem circuit_of_findReferenceCycle {found : List String}
    (h : findReferenceCycle forms = some found) : Circuit (Leads forms) found := by
  have hall := allFinished_all forms
  unfold findReferenceCycle at h
  split at h
  · next hend =>
    cases h
    rw [hend] at hall
    exact hall
  · cases h
  · cases h

theorem acyclic_of_findReferenceCycle (h : findReferenceCycle forms = none) :
    Acyclic (Leads forms) := by
  have hall := allFinished_all forms
  unfold findReferenceCycle at h
  split at h
  · cases h
  · next hend =>
    rw [hend] at hall
    exact hall.elim
  · next visited hend =>
    rw [hend] at hall
    obtain ⟨hfinished, -, hids⟩ := hall
    intro x hcycle
    exact (hfinished x (hids (mem_ids_of_transGen hcycle)) List.not_mem_nil).2 hcycle

theorem findReferenceCycle_eq_none_iff : findReferenceCycle forms = none ↔ Acyclic (Leads forms) := by
  refine ⟨acyclic_of_findReferenceCycle, fun hac => ?_⟩
  cases hfound : findReferenceCycle forms with
  | none => rfl
  | some found => exact absurd hac (circuit_of_findReferenceCycle hfound).not_acyclic

end

/-- **The search for a cycle is sound and complete.** -/
theorem findReferenceCycle_sound_complete (forms : List Form) :
    (findReferenceCycle forms = none ↔ ∀ x, ¬ TransGen (Leads forms) x x) ∧
    ∀ found, findReferenceCycle forms = some found → Circuit (Leads forms) found :=
  ⟨findReferenceCycle_eq_none_iff, fun _ hfound => circuit_of_findReferenceCycle hfound⟩

/-- A form without references, one that refers to it and to a cycle of two others. -/
theorem findReferenceCycle_behind_start :
    let form (id : String) (ids : List String) : Form :=
      ⟨id, .null, .null, [], ids.map fun id => .reference ⟨id, .null, .null⟩, .null, .null⟩
    let forms := [form "d" [], form "a" ["d", "b"], form "b" ["c"], form "c" ["b"]]
    findReferenceCycle forms = some ["b", "c", "b"] ∧ Circuit (Leads forms) ["b", "c", "b"] := by
  intro form forms
  have hfound : findReferenceCycle forms = some ["b", "c", "b"] := by
    simp [findReferenceCycle, searchFrom, explore_nil, explore_of_new, explore_of_visited,
      explore_of_underway, closing, Search.enter, Search.leave, forms, form, nextIds, lastForm?,
      Form.referenceIds, Route.reference?, bind, Except.bind, List.idxOf?_cons]
  exact ⟨hfound, (findReferenceCycle_sound_complete forms).2 _ hfound⟩

end SubmissionRouting
