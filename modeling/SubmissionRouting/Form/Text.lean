import SubmissionRouting.Form.Codec
import SubmissionRouting.Json.Reader
import SubmissionRouting.Json.Writer
import SubmissionRouting.Yaml.Reader
import SubmissionRouting.Yaml.Writer

/-! # Forms as texts

A form is kept as a text in one of two formats; both are those of its payload.

* `Form.ofJson?`, `Form.toJson`: forms in JSON.
* `Form.ofYaml?`, `Form.toYaml`: forms in YAML. -/

namespace SubmissionRouting

/-- The form in a JSON text. -/
def Form.ofJson? (s : String) : Result Form := do Form.ofPayload? (← Json.read s)

/-- A form as a JSON text, with all entries sorted. -/
def Form.toJson (f : Form) : Except Misuse String := Json.write Json.canonical f.toPayload

/-- The form in a YAML text. -/
def Form.ofYaml? (s : String) : Result Form := do Form.ofPayload? (← Yaml.read 1 s)

/-- A form as a YAML text. -/
def Form.toYaml (f : Form) : Except Misuse String := Yaml.write f.toPayload

end SubmissionRouting
