import SubmissionRouting.Form.Field
import SubmissionRouting.Condition.Basic

/-! # Routes and forms

A form routes its submissions through a table: rule routes, which lead to an action if their
condition holds, and references, which delegate to the table of another form. One rule route is the
*fallback*, which is taken when nothing else is.

* `Action`, `RuleRoute`, `RouterReference`, `Route`: the entries of a table.
* `RouteTable`: the entries of one form, with its fields if they are known.
* `Form`: a form with its owner. -/

namespace SubmissionRouting

/-- What is done once a route is taken. -/
inductive ActionKind where
  | eventRedirect
  | externalRedirect
  | customMessage
deriving DecidableEq

namespace ActionKind

/-- All kinds. -/
def all : List ActionKind := [eventRedirect, externalRedirect, customMessage]

/-- The name of a kind. -/
def name : ActionKind → String
  | eventRedirect => "event_redirect"
  | externalRedirect => "external_redirect"
  | customMessage => "custom_message"

/-- The kind with a name. -/
def ofName? (s : String) : Option ActionKind := all.find? fun k => k.name == s

@[simp] theorem ofName?_name (k : ActionKind) : ofName? k.name = some k := by cases k <;> rfl

end ActionKind

/-- Where a route leads: an event, an address or a message. -/
structure Action where
  kind : ActionKind
  value : Value

/-- The action leads to an event. -/
def Action.targetsEvent (a : Action) : Bool := a.kind = .eventRedirect

/-- A route with a condition. -/
structure RuleRoute where
  id : String
  action : Action
  query : Condition
  /-- A condition on hosts, of use only if the action leads to an event. -/
  attributesQuery : Condition
  isFallback : Bool

/-- The delegation to another form. -/
structure RouterReference where
  id : String
  name : Value
  description : Value

/-- An entry of a table. -/
inductive Route where
  | rule (r : RuleRoute)
  | reference (r : RouterReference)

namespace Route

/-- The id of a route; that of a reference is the id of the form it refers to. -/
def id : Route → String
  | rule r => r.id
  | reference r => r.id

/-- The route is a fallback; a reference never is. -/
def isFallback : Route → Bool
  | rule r => r.isFallback
  | reference _ => false

/-- The reference that a route is. -/
def reference? : Route → Option RouterReference
  | rule _ => none
  | reference r => some r

/-- The route refers to the form with this id. -/
def refersTo (formId : String) : Route → Bool
  | rule _ => false
  | reference r => r.id == formId

/-- The rule route that is a fallback. -/
def fallback? : Route → Option RuleRoute
  | rule r => if r.isFallback then some r else none
  | reference _ => none

end Route

/-- The routes of one form in order. -/
structure RouteTable where
  formId : String
  routes : List Route
  /-- The fields of the form, if they are known. -/
  fields : Option (List Field)

namespace RouteTable

/-- The first fallback. -/
def fallback? (t : RouteTable) : Option RuleRoute := t.routes.findSome? Route.fallback?

/-- The references in order. -/
def references (t : RouteTable) : List RouterReference := t.routes.filterMap Route.reference?

/-- The first route with an id; the ids of routes are texts, so that no route has another value as
its id. -/
def route? (t : RouteTable) (id : Value) : Option Route :=
  t.routes.find? fun r => (Value.text r.id).same id

end RouteTable

/-- A form: its fields, its routes and its owner. -/
structure Form where
  id : String
  name : Value
  description : Value
  fields : List Field
  routes : List Route
  team : Value
  user : Value

namespace Form

/-- The table of a form; the fields are known. -/
def table (f : Form) : RouteTable := ⟨f.id, f.routes, some f.fields⟩

/-- The form belongs to a team. -/
def isTeamForm (f : Form) : Bool := !f.team.isNull

/-- The first field with an id. -/
def field? (f : Form) (id : Value) : Option Field := f.fields.find? fun x => x.id.same id

end Form

end SubmissionRouting
