import SubmissionRouting.Value.Mapping

/-! # Hosts

A member of a team who may be assigned an event, with the values of the team's attributes. -/

namespace SubmissionRouting

/-- A member of a team. -/
structure Host where
  id : Value
  values : Mapping Value

end SubmissionRouting
