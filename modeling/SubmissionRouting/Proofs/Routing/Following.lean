import SubmissionRouting.Routing.References
import Mathlib.Tactic.SplitIfs

/-! # Following a reference

The walk through tables and the check of a table follow references in the same way
(`Tables.follow`): an id that is on the path already closes a cycle, an id under which nothing is
stored leads nowhere, and any other id leads to the table stored under it, with the path one id
longer. Both are given here by what they do at a single table (`walk_eq`, `checkReferencesFrom_eq`).
Every step takes up a stored id that was not on the path, which is the induction for all that is
said of them (`follow_induction`). -/

namespace SubmissionRouting

/-- The table that an id leads to from the end of a path. -/
def Tables.follow (ts : Tables) (path : List String) (id : String) :
    Except RoutingFault RouteTable :=
  if id ∈ path then .error (.cyclic (path ++ [id]))
  else
    match ts.get? id with
    | none => .error (.formNotFound id)
    | some next => .ok next

namespace Tables

variable {ts : Tables} {path : List String} {id : String}

theorem follow_of_mem (h : id ∈ path) : ts.follow path id = .error (.cyclic (path ++ [id])) :=
  if_pos h

theorem follow_of_none (h : id ∉ path) (hget : ts.get? id = none) :
    ts.follow path id = .error (.formNotFound id) := by
  unfold follow; rw [if_neg h, hget]

theorem follow_of_some {next : RouteTable} (h : id ∉ path) (hget : ts.get? id = some next) :
    ts.follow path id = .ok next := by
  unfold follow; rw [if_neg h, hget]

theorem follow_eq_ok_iff {next : RouteTable} :
    ts.follow path id = .ok next ↔ id ∉ path ∧ ts.get? id = some next := by
  constructor
  · intro h
    unfold follow at h
    split_ifs at h with hid
    cases hget : ts.get? id with
    | none => rw [hget] at h; cases h
    | some u => rw [hget] at h; cases h; exact ⟨hid, rfl⟩
  · rintro ⟨hid, hget⟩
    exact follow_of_some hid hget

theorem follow_error_cases {e : RoutingFault} (h : ts.follow path id = .error e) :
    (id ∈ path ∧ e = .cyclic (path ++ [id])) ∨
      (id ∉ path ∧ ts.get? id = none ∧ e = .formNotFound id) := by
  unfold follow at h
  split_ifs at h with hid
  · cases h; exact Or.inl ⟨hid, rfl⟩
  · cases hget : ts.get? id with
    | none => rw [hget] at h; cases h; exact Or.inr ⟨hid, rfl, rfl⟩
    | some u => rw [hget] at h; cases h

/-- **Induction along references.** What holds of a table once it holds of all tables that ids lead
to from the end of the longer path holds of every table. -/
theorem follow_induction (ts : Tables) {motive : List String → RouteTable → Prop}
    (step : ∀ path t,
      (∀ id next, ts.follow path id = .ok next → motive (path ++ [id]) next) → motive path t)
    (path : List String) (t : RouteTable) : motive path t := by
  refine step path t fun id next h => ?_
  obtain ⟨hid, hget⟩ := follow_eq_ok_iff.mp h
  exact follow_induction ts step (path ++ [id]) next
termination_by unvisited ts.ids path
decreasing_by exact unvisited_append_lt (mem_ids_of_get? hget) hid

end Tables

/-- What a reference contributes to the walk through the table that has it. -/
def followReference (ts : Tables) (response : Response) (path : List String) (t : RouteTable)
    (fields : Option (List Field)) (r : RouterReference) : Journaled (Option Selection) :=
  match ts.follow path r.id with
  | .error cause => Journaled.fail (.routing cause)
  | .ok next => do
    Journaled.write .debug .chain
      ("Following router reference " ++ r.id ++ " at depth " ++ decimalText path.length)
    let s ← walk ts response (path ++ [r.id]) next (next.fields.or fields)
    pure (s.map (Selection.via t.formId))

theorem walk_eq (ts : Tables) (response : Response) (path : List String) (t : RouteTable)
    (fields : Option (List Field)) :
    walk ts response path t fields =
      (do
        let context ← t.context response fields
        firstMatch t.formId context (followReference ts response path t fields) t.routes) := by
  rw [walk]
  congr 1
  funext context
  congr 1
  funext r
  unfold followReference
  by_cases h : r.id ∈ path
  · rw [dif_pos h, Tables.follow_of_mem h]
  · rw [dif_neg h]
    split
    · next hget => rw [Tables.follow_of_none h hget]
    · next next hget => rw [Tables.follow_of_some h hget]

theorem checkReferencesFrom_eq (ts : Tables) (path : List String) (t : RouteTable) :
    checkReferencesFrom ts path t =
      t.references.forM fun r =>
        ts.follow path r.id >>= checkReferencesFrom ts (path ++ [r.id]) := by
  rw [checkReferencesFrom]
  congr 1
  funext r
  by_cases h : r.id ∈ path
  · rw [dif_pos h, Tables.follow_of_mem h]; rfl
  · rw [dif_neg h]
    split
    · next hget => rw [Tables.follow_of_none h hget]; rfl
    · next next hget => rw [Tables.follow_of_some h hget]; rfl

end SubmissionRouting
