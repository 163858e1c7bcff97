import SubmissionRouting.Condition.Codec
import SubmissionRouting.Host

/-! # Forms as payloads

The payloads of forms and of everything in them. The ids of forms, routes and choices are read as
texts, whatever they are; the ids of fields, attributes and hosts are kept as they are. What a
payload leaves out has a default, except where a key is required.

* `Field.ofPayload?`, `Attribute.ofPayload?`, `Host.ofPayload?`, `Action.ofPayload?`,
  `Route.ofPayload?`, `Form.ofPayload?`: read a payload.
* `Field.toPayload`, `Attribute.toPayload`, `Host.toPayload`, `Action.toPayload`, `Route.toPayload`,
  `Form.toPayload`: write one. -/

namespace SubmissionRouting

/-- Reads each item of a value. -/
def Value.eachItem {α : Type} (read : Value → Result α) (v : Value) : Result (List α) := do
  let vs ← orFault v.items
  vs.mapM read

/-! ### Choices -/

/-- The choice in a payload. -/
def Choice.ofPayload? (v : Value) : Result Choice := do
  let id ← (← v.required "id").shown
  let label ← v.required "label"
  pure ⟨id, label⟩

/-- The payload of a choice. -/
def Choice.toPayload (c : Choice) : Value :=
  .map [(.text "id", .text c.id), (.text "label", c.label)]

/-- The choices in a payload; a value that does not count as given has none. -/
def choicesOfPayload? (v : Value) : Result (List Choice) :=
  (v.orElse (.list [])).eachItem Choice.ofPayload?

/-- The payload of a table of choices. -/
def choicesToPayload (choices : List Choice) : Value := .list (choices.map Choice.toPayload)

/-! ### Fields, attributes and hosts -/

/-- The field in a payload. -/
def Field.ofPayload? (v : Value) : Result Field := do
  let id ← v.required "id"
  let es ← v.entries
  let kind ← (Value.memberD es "type" (.text "text")).named .fieldKind FieldKind.ofName?
  let choices ← choicesOfPayload? (Value.memberD es "options" .null)
  pure ⟨id, Value.memberD es "label" (.text ""), kind,
    (Value.memberD es "identifier" .null).orElse (.text ""), choices⟩

/-- The payload of a field. -/
def Field.toPayload (f : Field) : Value :=
  .map [(.text "id", f.id), (.text "label", f.label), (.text "type", .text f.kind.name),
    (.text "identifier", f.identifier), (.text "options", choicesToPayload f.choices)]

/-- The attribute in a payload. -/
def Attribute.ofPayload? (v : Value) : Result Attribute := do
  let id ← v.required "id"
  let es ← v.entries
  let kind ← (Value.memberD es "type" (.text "text")).named .fieldKind FieldKind.ofName?
  let choices ← choicesOfPayload? (Value.memberD es "options" .null)
  pure ⟨id, Value.memberD es "name" (.text ""), kind, choices, Value.memberD es "team_id" .null⟩

/-- The payload of an attribute. -/
def Attribute.toPayload (a : Attribute) : Value :=
  .map [(.text "id", a.id), (.text "name", a.name), (.text "type", .text a.kind.name),
    (.text "options", choicesToPayload a.choices), (.text "team_id", a.team)]

/-- The host in a payload. -/
def Host.ofPayload? (v : Value) : Result Host := do
  let id ← v.required "id"
  let es ← v.entries
  let values ← orFault ((Value.memberD es "attributes" .null).orElse (.map [])).toMapping
  pure ⟨id, values⟩

/-- The payload of a host. -/
def Host.toPayload (h : Host) : Value :=
  .map [(.text "id", h.id), (.text "attributes", .map (h.values.map fun e => (e.1, e.2.plain)))]

/-! ### Routes -/

/-- The action in a payload. -/
def Action.ofPayload? (v : Value) : Result Action := do
  let kind ← (← v.required "kind").named .actionKind ActionKind.ofName?
  let es ← v.entries
  pure ⟨kind, Value.memberD es "value" (.text "")⟩

/-- The payload of an action. -/
def Action.toPayload (a : Action) : Value :=
  .map [(.text "kind", .text a.kind.name), (.text "value", a.value)]

/-- The route in a payload. A condition that is left out holds always. -/
def Route.ofPayload? (v : Value) : Result Route := do
  let id ← (← v.required "id").shown
  let es ← v.entries
  if (Value.memberD es "is_router" .null).isTruthy then
    pure (.reference ⟨id, Value.memberD es "name" (.text ""),
      Value.memberD es "description" (.text "")⟩)
  else
    let query ← Condition.ofPayload? (Value.memberD es "query" .null)
    let action ← Action.ofPayload? (← v.required "action")
    let attributesQuery ← Condition.ofPayload? (Value.memberD es "attributes_query" .null)
    pure (.rule ⟨id, action, if query.isMissing then .matchAll else query, attributesQuery,
      (Value.memberD es "is_fallback" (.bool false)).isTruthy⟩)

/-- The payload of a rule route. -/
def RuleRoute.toPayload (r : RuleRoute) : Value :=
  .map [(.text "id", .text r.id), (.text "action", r.action.toPayload),
    (.text "is_fallback", .bool r.isFallback), (.text "query", r.query.toPayload),
    (.text "attributes_query", r.attributesQuery.toPayload)]

/-- The payload of a reference. -/
def RouterReference.toPayload (r : RouterReference) : Value :=
  .map [(.text "id", .text r.id), (.text "is_router", .bool true), (.text "name", r.name),
    (.text "description", r.description)]

/-- The payload of a route. -/
def Route.toPayload : Route → Value
  | rule r => r.toPayload
  | reference r => r.toPayload

/-! ### Forms -/

/-- The form in a payload. -/
def Form.ofPayload? (v : Value) : Result Form := do
  let id ← (← v.required "id").shown
  let es ← v.entries
  let fields ← (Value.memberD es "fields" (.list [])).eachItem Field.ofPayload?
  let routes ← (Value.memberD es "routes" (.list [])).eachItem Route.ofPayload?
  pure ⟨id, Value.memberD es "name" (.text ""), Value.memberD es "description" (.text ""), fields,
    routes, Value.memberD es "team_id" .null, Value.memberD es "user_id" .null⟩

/-- The payload of a form. -/
def Form.toPayload (f : Form) : Value :=
  .map [(.text "id", .text f.id), (.text "name", f.name), (.text "description", f.description),
    (.text "team_id", f.team), (.text "user_id", f.user),
    (.text "fields", .list (f.fields.map Field.toPayload)),
    (.text "routes", .list (f.routes.map Route.toPayload))]

end SubmissionRouting
