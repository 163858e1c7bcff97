import SubmissionRouting.Condition.Operator
import SubmissionRouting.Value.Mapping
import SubmissionRouting.Journal

/-! # Evaluation of conditions

A condition is evaluated against a context: the values of fields, and a catalog that says of which
kind the fields are. A rule on a field that the catalog does not have has *no opinion*. The opinions
of a group's children are combined without those that have none; a group whose children all have no
opinion has none either, unlike a group without children. A condition without opinion holds.

Every rule is evaluated, whatever the others say, and each rule without opinion is recorded.

* `Combinator.combine`: the opinion of a group, given those of its children.
* `Condition.opinion`: the opinion of a condition.
* `Condition.evaluate`: whether a condition holds; a missing one does. -/

namespace SubmissionRouting

/-- The values of fields and the slots that type them. -/
structure Context where
  values : Mapping Value
  catalog : Mapping Slot

namespace Context

/-- The catalog of fields; of two with the same id the later counts. -/
def catalogOfFields (fields : List Field) : Except Misuse (Mapping Slot) :=
  Mapping.ofPairs? (fields.map fun f => (f.id, f.slot))

/-- The catalog of attributes; of two with the same id the later counts. -/
def catalogOfAttributes (attributes : List Attribute) : Except Misuse (Mapping Slot) :=
  Mapping.ofPairs? (attributes.map fun a => (a.id, a.slot))

/-- The context of a response to a form. -/
def ofResponse (fields : List Field) (response : Mapping Value) : Except Misuse Context := do
  pure ⟨response, ← catalogOfFields fields⟩

end Context

/-- The opinion of a group, given the opinions of its children. -/
def Combinator.combine (c : Combinator) (results : List (Option Bool)) : Option Bool :=
  let opinions := results.filterMap id
  if !results.isEmpty && opinions.isEmpty then none
  else
    match c with
    | .and => some (opinions.all id)
    | .or => some (opinions.any id)
    | .not => some (!opinions.all id)

/-- The opinion of a rule. -/
def Rule.opinion (context : Context) (r : Rule) : Journaled (Option Bool) := do
  let field ← r.field.asKey
  match context.catalog.get? field with
  | none =>
    Journaled.note .debug .evaluation "Skipping rule on unknown field " r.field
    pure none
  | some slot =>
    let verdict ← r.operator.holds ((context.values.get? field).getD .null) r.comparand slot
    pure (some verdict)

namespace Condition

mutual

/-- The opinion of a condition. -/
def opinion (context : Context) : Condition → Journaled (Option Bool)
  | missing => Journaled.fail .missingCondition
  | rule r => r.opinion context
  | group c children => do
    let results ← opinions context children
    pure (c.combine results)
termination_by structural c => c

/-- The opinions of several conditions. -/
def opinions (context : Context) : List Condition → Journaled (List (Option Bool))
  | [] => pure []
  | c :: cs => do
    let first ← opinion context c
    let others ← opinions context cs
    pure (first :: others)
termination_by structural cs => cs

end

/-- Whether a condition holds. -/
def evaluate (context : Context) (c : Condition) : Journaled Bool :=
  match c with
  | missing => pure true
  | c => do
    let result ← opinion context c
    pure (result.getD true)

end Condition

end SubmissionRouting
