import SubmissionRouting.Yaml.Knot

/-! # Reading YAML

The nodes of a text are read first, then the collections that they amount to, and at last the values
of these. A mapping takes over the entries of the mappings under its merge keys; of two entries with
the same key the later counts, in the place of the earlier.

* `read`: the value of a text. -/

namespace SubmissionRouting.Yaml

/-- The value of a text; an empty one stands for nothing. The number of the source tells apart what is
not a number here and in other texts. -/
def read (source : Nat) (s : String) : Result Value := do
  match ← document? s with
  | none => pure .null
  | some d =>
    let (root, cs) ← d.collections source
    pure (root.toValue cs)

end SubmissionRouting.Yaml
