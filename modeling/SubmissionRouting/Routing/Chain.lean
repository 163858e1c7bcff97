import SubmissionRouting.Routing.Selection

/-! # Chains of tables

A reference stands for the routes of another form's table, except its fallback: if none of them
matches, the walk goes on after the reference. A form that is already on the way to the reference
may not be entered again, and the form referred to must be stored.

* `Tables`: tables stored under the ids of forms.
* `unvisited`: the number of ids that are not yet on a path; it shrinks with every step of a path.
* `walk`: the first route that matches in a table and in those it refers to.
* `resolve`: the route for a response; if none matches, the fallback of the first table. -/

namespace SubmissionRouting

/-- Tables stored under the ids of forms. A stored table may belong to a form of another id. -/
abbrev Tables := List (String × RouteTable)

namespace Tables

/-- The table stored under an id. -/
def get? (ts : Tables) (id : String) : Option RouteTable :=
  (ts.find? fun e => e.1 == id).map (·.2)

/-- The ids under which tables are stored. -/
def ids (ts : Tables) : List String := ts.map (·.1)

/-- The tables of forms; of two forms with the same id the later counts. -/
def ofForms (forms : List Form) : Tables := forms.reverse.map fun f => (f.id, f.table)

theorem mem_ids_of_get? {ts : Tables} {id : String} {t : RouteTable} (h : ts.get? id = some t) :
    id ∈ ts.ids := by
  obtain ⟨e, he, -⟩ := Option.map_eq_some_iff.1 h
  have hid : e.1 = id := by simpa using List.find?_some he
  exact List.mem_map.2 ⟨e, List.mem_of_find?_eq_some he, hid⟩

end Tables

/-! ### Paths -/

/-- The number of ids that are not on a path. -/
def unvisited (ids path : List String) : Nat := ids.countP fun id => !path.contains id

theorem unvisited_le {ids path path' : List String} (h : path ⊆ path') :
    unvisited ids path' ≤ unvisited ids path := by
  refine List.countP_mono_left fun x _ hx => ?_
  simp only [List.contains_eq_mem, Bool.not_eq_true', decide_eq_false_iff_not] at hx ⊢
  exact fun hmem => hx (h hmem)

theorem unvisited_lt {ids path path' : List String} {id : String} (h : path ⊆ path')
    (hid : id ∈ ids) (hpath : id ∉ path) (hnew : id ∈ path') :
    unvisited ids path' < unvisited ids path := by
  obtain ⟨before, after, rfl⟩ := List.append_of_mem hid
  have hbefore : unvisited before path' ≤ unvisited before path := unvisited_le h
  have hafter : unvisited after path' ≤ unvisited after path := unvisited_le h
  unfold unvisited at *
  simp only [List.countP_append, List.countP_cons]
  have hold : path.contains id = false := by simpa using hpath
  have hmet : path'.contains id = true := by simpa using hnew
  simp only [hold, hmet, Bool.not_true, Bool.not_false, if_true, Bool.false_eq_true, if_false]
  omega

theorem unvisited_append_lt {ids path : List String} {id : String} (hid : id ∈ ids)
    (hpath : id ∉ path) : unvisited ids (path ++ [id]) < unvisited ids path :=
  unvisited_lt (List.subset_append_left ..) hid hpath (List.mem_append_right path List.mem_cons_self)

/-! ### The walk -/

/-- The selection made beyond a reference, as seen from the form that has the reference. -/
def Selection.via (formId : String) (s : Selection) : Selection :=
  { s with chain := formId :: s.chain }

/-- The first route that matches in a table and in those it refers to. The path holds the ids of the
forms on the way to this table and of its own form; the given fields type the answers if the table
does not know its own. -/
def walk (ts : Tables) (response : Response) (path : List String) (t : RouteTable)
    (fields : Option (List Field)) : Journaled (Option Selection) := do
  let context ← t.context response fields
  firstMatch t.formId context
    (fun r =>
      if _ : r.id ∈ path then Journaled.fail (.routing (.cyclic (path ++ [r.id])))
      else
        match _ : ts.get? r.id with
        | none => Journaled.fail (.routing (.formNotFound r.id))
        | some next => do
          Journaled.write .debug .chain
            ("Following router reference " ++ r.id ++ " at depth " ++ decimalText path.length)
          let s ← walk ts response (path ++ [r.id]) next (next.fields.or fields)
          pure (s.map (Selection.via t.formId)))
    t.routes
termination_by unvisited ts.ids path
decreasing_by exact unvisited_append_lt (Tables.mem_ids_of_get? ‹_›) ‹_›

/-- The route for a response to a form, by way of its references. -/
def resolve (formId : String) (t : RouteTable) (response : Response) (ts : Tables)
    (fields : Option (List Field)) : Journaled Selection := do
  let entry := { t with formId := formId }
  match ← walk ts response [formId] entry fields with
  | some s => pure s
  | none => entry.selectFallback (← entry.context response fields)

end SubmissionRouting
