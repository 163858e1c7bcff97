import SubmissionRouting.Routing.Submission
import SubmissionRouting.Routing.References
import SubmissionRouting.Report

/-! # The store of forms

Forms are kept in the order in which their ids were first stored. A form is edited in its place; the
tables of all stored forms are those that references can lead to. The store also counts the
fallbacks that were created, so that each gets an id of its own.

* `FormStore`: the stored forms.
* `put`, `remove`, `edit`: the changes.
* `moveUp`, `moveDown`, `withFallback`, `addReference`, `dropRoute`: edits of one form's routes.
* `check`, `submit`: a stored form checked against the others, and a submission to it. -/

namespace SubmissionRouting

/-- The id of the fallback created after so many others. -/
def generatedId (created : Nat) : String := "generated-" ++ decimalText (created + 1)

/-- The stored forms, each id once. -/
structure FormStore where
  forms : List Form := []
  /-- The number of fallbacks created so far. -/
  created : Nat := 0

namespace FormStore

/-- The form stored under an id. -/
def form? (s : FormStore) (id : Value) : Option Form :=
  s.forms.find? fun f => (Value.text f.id).same id

/-- The form stored under an id, or the fault that there is none. -/
def form (s : FormStore) (id : Value) : Result Form := do
  let key ← id.asKey
  match s.form? key with
  | some f => pure f
  | none => .error (.notStored key)

/-- The tables of the stored forms. -/
def tables (s : FormStore) : Tables := Tables.ofForms s.forms

/-- A form in the place of the one with its id. -/
def replaced (forms : List Form) (f : Form) : List Form :=
  forms.map fun g => if g.id == f.id then f else g

/-- Stores a form: in the place of the one with its id, or at the end. -/
def put (s : FormStore) (f : Form) : FormStore :=
  { s with
    forms := if (s.form? (.text f.id)).isSome then replaced s.forms f else s.forms ++ [f] }

/-- Removes the form stored under an id; also tells whether there was one. -/
def remove (s : FormStore) (id : Value) : Result (Bool × FormStore) := do
  let key ← id.asKey
  pure ((s.form? key).isSome,
    { s with forms := s.forms.filter fun f => !(Value.text f.id).same key })

/-- Changes the routes of a stored form. -/
def edit (s : FormStore) (id : Value) (change : Form → Result (List Route)) : Result FormStore := do
  let f ← s.form id
  let routes ← change f
  pure (s.put { f with routes := routes })

/-- Moves a route of a stored form one place up. -/
def moveUp (s : FormStore) (id routeId : Value) : Result FormStore :=
  s.edit id fun f => do pure (← f.table.moveUp routeId).routes

/-- Moves a route of a stored form one place down. -/
def moveDown (s : FormStore) (id routeId : Value) : Result FormStore :=
  s.edit id fun f => do pure (← f.table.moveDown routeId).routes

/-- Puts the fallback of a stored form at the end, or creates one. -/
def withFallback (s : FormStore) (id : Value) (message : Value) : Result FormStore := do
  let f ← s.form id
  let t := f.table.withFallback (generatedId s.created) message
  let created := if f.table.fallback?.isNone then s.created + 1 else s.created
  pure { s.put { f with routes := t.routes } with created := created }

/-- The references to an id that can be added to a stored form. -/
def offered (s : FormStore) (f : Form) (target : Value) : List RouterReference :=
  (availableRouters f s.forms).filter fun r => (Value.text r.id).same target

/-- Puts the reference to another form first, if it can be added; also tells how many were. -/
def addReference (s : FormStore) (id target : Value) : Result (Nat × FormStore) := do
  let f ← s.form id
  let added := s.offered f target
  pure (added.length, s.put { f with routes := added.map .reference ++ f.routes })

/-- Removes the routes of a stored form that have an id. -/
def dropRoute (s : FormStore) (id routeId : Value) : Result FormStore :=
  s.edit id fun f => pure (f.routes.filter fun r => !(Value.text r.id).same routeId)

/-- A stored form's table is well formed, and so are its references. -/
def check (s : FormStore) (id : Value) : Result Unit := do
  let f ← s.form id
  orRoutingFault f.table.check
  orRoutingFault (checkReferences s.tables f.table)

/-- The decision on a submission to a stored form. The store is asked for the tables that references
lead to and for the id of a fallback that has to be created. -/
def submit (s : FormStore) (id : Value) (submission : Form → Tables → String → Submission) :
    Journaled Decision := do
  let f ← s.form id
  (submission f s.tables (generatedId s.created)).decide

/-- The store after a submission: a fallback may have been created for it. -/
def afterSubmit (s : FormStore) (id : Value)
    (submission : Form → Tables → String → Submission) : FormStore :=
  match s.form? id with
  | none => s
  | some f =>
    if (submission f s.tables (generatedId s.created)).createsFallback then
      { s with created := s.created + 1 }
    else s

end FormStore

end SubmissionRouting
