import SubmissionRouting.Form.Route
import SubmissionRouting.Fault

/-! # Checking and reordering tables

A table is well formed if its ids are different, it does not refer to its own form, and it has one
fallback, as its last route. Routes are moved one place at a time, and down not past a fallback.

* `RouteTable.check`: the first fault of a table.
* `SharedTable`: a table as a list of objects, of which it may list one twice.
* `SharedTable.withFallback`: the table with its fallback at the end, or with a new one.
* `RouteTable.moveUp`, `RouteTable.moveDown`: one route changes places with its neighbour. -/

namespace SubmissionRouting

/-- What is shown when nothing else is chosen. -/
def defaultFallbackMessage : Value :=
  .text "Thank you for your interest! We will be in touch soon."

/-- A fallback that shows a message. -/
def createdFallback (id : String) (message : Value) : RuleRoute :=
  ⟨id, ⟨.customMessage, message⟩, .matchAll, .missing, true⟩

/-- The list with the items at a place and at the next one exchanged. -/
def swapAt {α : Type} : Nat → List α → List α
  | 0, a :: b :: l => b :: a :: l
  | n + 1, a :: l => a :: swapAt n l
  | _, l => l

namespace RouteTable

/-- The fault of a table. -/
def broken {α : Type} (t : RouteTable) (cause : TableFault) : Except RoutingFault α :=
  .error (.brokenTable cause t.formId)

/-- The fallbacks in order. -/
def fallbacks (t : RouteTable) : List RuleRoute := t.routes.filterMap Route.fallback?

/-- No id occurs twice or is among those already seen, and no route refers to the table's form. -/
def checkRoutes (t : RouteTable) (seen : List String) : List Route → Except RoutingFault Unit
  | [] => .ok ()
  | r :: rs =>
    if r.id ∈ seen then t.broken (.duplicateRoute r.id)
    else if r.refersTo t.formId then .error (.selfReference t.formId)
    else t.checkRoutes (r.id :: seen) rs

/-- The last route is a fallback. -/
def endsInFallback (t : RouteTable) : Bool := t.routes.getLast?.any Route.isFallback

/-- The table is well formed. -/
def check (t : RouteTable) : Except RoutingFault Unit := do
  t.checkRoutes [] t.routes
  if t.fallbacks.length ≠ 1 then t.broken (.fallbackCount t.fallbacks.length)
  else if !t.endsInFallback then t.broken .fallbackNotLast
  else pure ()

/-- The fault of an id that no route has. -/
def unknownRoute {α : Type} (t : RouteTable) (id : Value) : Result α := do
  let s ← id.literal
  orRoutingFault (t.broken (.unknownRoute s))

/-- The place of the first route with an id, unless it is a fallback. -/
def movableIndex (t : RouteTable) (id : Value) : Result Nat :=
  match t.route? id with
  | none => t.unknownRoute id
  | some r =>
    if r.isFallback then orRoutingFault (t.broken .fallbackFixed)
    else pure (t.routes.findIdx fun r => (Value.text r.id).same id)

/-- The table with a route moved one place up. -/
def moveUp (t : RouteTable) (id : Value) : Result RouteTable := do
  match ← t.movableIndex id with
  | 0 => pure t
  | n + 1 => pure { t with routes := swapAt n t.routes }

/-- The table with a route moved one place down, but not past a fallback. -/
def moveDown (t : RouteTable) (id : Value) : Result RouteTable := do
  let n ← t.movableIndex id
  match t.routes[n + 1]? with
  | none => pure t
  | some r => pure (if r.isFallback then t else { t with routes := swapAt n t.routes })

end RouteTable

/-! ### Routes as objects

Two routes with the same content may be two objects, and a table may list one object twice. That makes
a difference where an object is moved: of a fallback that is listed twice one listing is left. -/

/-- A table that lists objects, each of which has a route as its content. -/
structure SharedTable where
  formId : String
  /-- The objects in order. -/
  listed : List Nat
  /-- The content of an object. -/
  route : Nat → Route
  fields : Option (List Field)

namespace SharedTable

/-- The contents in order. -/
def table (t : SharedTable) : RouteTable := ⟨t.formId, t.listed.map t.route, t.fields⟩

/-- The object that is the first fallback. -/
def fallback? (t : SharedTable) : Option Nat := t.listed.find? fun a => (t.route a).isFallback

/-- An object that is not listed. -/
def unlisted (t : SharedTable) : Nat := t.listed.foldr max 0 + 1

/-- The table with a new object at the end. -/
def push (t : SharedTable) (r : Route) : SharedTable :=
  { t with
    listed := t.listed ++ [t.unlisted]
    route := fun a => if a = t.unlisted then r else t.route a }

/-- The table with its first fallback at the end and nowhere else. A table without one gets a new one,
and one that ends in it stays as it is. -/
def withFallback (t : SharedTable) (freshId : String) (message : Value) : SharedTable :=
  match t.fallback? with
  | none => t.push (.rule (createdFallback freshId message))
  | some a =>
    if t.listed.getLast? = some a then t
    else { t with listed := t.listed.filter (· ≠ a) ++ [a] }

@[simp] theorem formId_withFallback (t : SharedTable) (freshId : String) (message : Value) :
    (t.withFallback freshId message).formId = t.formId := by
  unfold withFallback
  split
  · rfl
  · split <;> rfl

@[simp] theorem fields_withFallback (t : SharedTable) (freshId : String) (message : Value) :
    (t.withFallback freshId message).fields = t.fields := by
  unfold withFallback
  split
  · rfl
  · split <;> rfl

theorem le_foldr_max {l : List Nat} {a : Nat} (h : a ∈ l) : a ≤ l.foldr max 0 := by
  induction l with
  | nil => cases h
  | cons b l ih =>
    rcases List.mem_cons.mp h with rfl | h
    · exact Nat.le_max_left _ _
    · exact Nat.le_trans (ih h) (Nat.le_max_right _ _)

theorem lt_unlisted {t : SharedTable} {a : Nat} (h : a ∈ t.listed) : a < t.unlisted :=
  Nat.lt_succ_of_le (le_foldr_max h)

theorem route_push_of_mem {t : SharedTable} {a : Nat} (h : a ∈ t.listed) (r : Route) :
    (t.push r).route a = t.route a :=
  if_neg (Nat.ne_of_lt (lt_unlisted h))

theorem table_push (t : SharedTable) (r : Route) :
    (t.push r).table = { t.table with routes := t.table.routes ++ [r] } := by
  have hkept : t.listed.map (t.push r).route = t.listed.map t.route :=
    List.map_congr_left fun a ha => route_push_of_mem ha r
  have hnew : (t.push r).route t.unlisted = r := if_pos rfl
  show (⟨t.formId, (t.listed ++ [t.unlisted]).map (t.push r).route, t.fields⟩ : RouteTable) = _
  rw [List.map_append, hkept, List.map_singleton, hnew]
  rfl

end SharedTable

namespace RouteTable

/-- The table with an object of its own for each route, as it is when the routes were just read. -/
def shared (t : RouteTable) : SharedTable where
  formId := t.formId
  listed := List.range t.routes.length
  route a := t.routes.getD a (.reference ⟨"", .null, .null⟩)
  fields := t.fields

@[simp] theorem table_shared (t : RouteTable) : t.shared.table = t := by
  have hroutes : (List.range t.routes.length).map t.shared.route = t.routes := by
    refine List.ext_getElem (by simp) fun n hn hn' => ?_
    simp [shared, hn']
  show (⟨t.formId, (List.range t.routes.length).map t.shared.route, t.fields⟩ : RouteTable) = t
  rw [hroutes]

/-- The table with its fallback at the end, or with a new one. -/
def withFallback (t : RouteTable) (freshId : String) (message : Value) : RouteTable :=
  (t.shared.withFallback freshId message).table

theorem formId_withFallback (t : RouteTable) (freshId : String) (message : Value) :
    (t.withFallback freshId message).formId = t.formId :=
  t.shared.formId_withFallback freshId message

theorem fields_withFallback (t : RouteTable) (freshId : String) (message : Value) :
    (t.withFallback freshId message).fields = t.fields :=
  t.shared.fields_withFallback freshId message

end RouteTable

end SubmissionRouting
