import SubmissionRouting.Form.Codec
import SubmissionRouting.Proofs.Condition.Outcome

/-! # The values of a form

A form carries values: labels, names, comparands and the like. `Form.mapValues` applies a function to
all of them and leaves the rest as it is, so two forms that become the same are the same but for what
the function does not show of their values. Nothing is lost where
nothing is changed (`Form.mapValues_self`). -/

namespace SubmissionRouting

section
variable (φ : Value → Value)

def Choice.mapValues (c : Choice) : Choice := { c with label := φ c.label }

def Field.mapValues (f : Field) : Field :=
  { f with id := φ f.id, label := φ f.label, identifier := φ f.identifier
           choices := f.choices.map (Choice.mapValues φ) }

def Rule.mapValues (r : Rule) : Rule := { r with field := φ r.field, comparand := φ r.comparand }

namespace Condition

mutual

/-- The condition with the function applied to all fields and comparands. -/
def mapValues : Condition → Condition
  | missing => missing
  | rule r => rule (r.mapValues φ)
  | group k cs => group k (mapValuesOfAll cs)
termination_by structural c => c

/-- Several conditions with the function applied to all fields and comparands. -/
def mapValuesOfAll : List Condition → List Condition
  | [] => []
  | c :: cs => mapValues c :: mapValuesOfAll cs
termination_by structural cs => cs

end

theorem mapValuesOfAll_eq_map (cs : List Condition) :
    mapValuesOfAll φ cs = cs.map (mapValues φ) := by
  induction cs with
  | nil => rfl
  | cons c cs ih => exact congrArg (mapValues φ c :: ·) ih

theorem mapValues_group (k : Combinator) (cs : List Condition) :
    (group k cs).mapValues φ = group k (cs.map (mapValues φ)) :=
  congrArg (group k) (mapValuesOfAll_eq_map φ cs)

end Condition

def Action.mapValues (a : Action) : Action := { a with value := φ a.value }

def RuleRoute.mapValues (r : RuleRoute) : RuleRoute :=
  { r with action := r.action.mapValues φ, query := r.query.mapValues φ
           attributesQuery := r.attributesQuery.mapValues φ }

def RouterReference.mapValues (r : RouterReference) : RouterReference :=
  { r with name := φ r.name, description := φ r.description }

def Route.mapValues : Route → Route
  | rule r => rule (r.mapValues φ)
  | reference r => reference (r.mapValues φ)

/-- The form with the function applied to all values that it carries. -/
def Form.mapValues (f : Form) : Form :=
  { f with name := φ f.name, description := φ f.description, team := φ f.team, user := φ f.user
           fields := f.fields.map (Field.mapValues φ), routes := f.routes.map (Route.mapValues φ) }

end

/-! ### Nothing is lost where nothing is changed -/

theorem Field.mapValues_self (f : Field) : (f.mapValues fun v => v) = f := by
  have hchoices : f.choices.map (Choice.mapValues fun v => v) = f.choices := List.map_id' f.choices
  unfold mapValues
  rw [hchoices]

theorem Condition.mapValues_self (c : Condition) : (c.mapValues fun v => v) = c := by
  induction c using Condition.induction with
  | missing => rfl
  | rule r => rfl
  | group k cs ih => rw [mapValues_group, List.map_congr_left ih, List.map_id']

theorem RuleRoute.mapValues_self (r : RuleRoute) : (r.mapValues fun v => v) = r := by
  unfold mapValues
  rw [r.query.mapValues_self, r.attributesQuery.mapValues_self]
  rfl

theorem Route.mapValues_self (r : Route) : (r.mapValues fun v => v) = r := by
  cases r with
  | rule r => exact congrArg Route.rule r.mapValues_self
  | reference r => rfl

theorem Form.mapValues_self (f : Form) : (f.mapValues fun v => v) = f := by
  unfold mapValues
  rw [funext Field.mapValues_self, funext Route.mapValues_self, List.map_id', List.map_id']

end SubmissionRouting
