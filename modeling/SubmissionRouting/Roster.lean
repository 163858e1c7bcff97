import SubmissionRouting.Condition.Evaluation
import SubmissionRouting.Host

/-! # Rosters

The hosts of a team event are narrowed down by a condition on their attributes. If the team does not
say which attributes it has, every attribute that some host has a value for counts as a text.

* `rosterAttributes`: the attributes that a roster has values for.
* `filterHosts`: the ids of the hosts that satisfy a condition. -/

namespace SubmissionRouting

/-- The attributes that hosts have values for, each as a text. -/
def rosterAttributes (hosts : List Host) : List Attribute :=
  (Value.distinct (hosts.flatMap fun h => h.values.keys)).map fun id => ⟨id, id, .text, [], .null⟩

/-- Whether a host satisfies a condition. -/
def Host.satisfies (attributes : List Attribute) (query : Condition) (h : Host) :
    Journaled Bool := do
  let catalog ← Context.catalogOfAttributes attributes
  query.evaluate ⟨h.values, catalog⟩

/-- Adds the id of a host if it satisfies a condition. -/
def addSatisfying (attributes : List Attribute) (query : Condition) (ids : List Value) (h : Host) :
    Journaled (List Value) := do
  if ← h.satisfies attributes query then
    let id ← h.id.asKey
    pure (Value.noted ids id)
  else pure ids

/-- The ids of the hosts that satisfy a condition. -/
def filterHosts (query : Condition) (hosts : List Host) (attributes : Option (List Attribute)) :
    Journaled (List Value) := do
  let attributes := attributes.getD (rosterAttributes hosts)
  let ids ← hosts.foldlM (addSatisfying attributes query) []
  Journaled.write .debug .hosts
    (decimalText ids.length ++ " of " ++ decimalText hosts.length ++ " hosts matched attribute rules")
  pure ids

end SubmissionRouting
