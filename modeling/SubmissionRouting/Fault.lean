import SubmissionRouting.Text.Quoted
import SubmissionRouting.Value.Literal
import SubmissionRouting.Decision

/-! # Faults

Everything that can stop a computation, as a cause. The wording of each cause is in one place.

* `PayloadFault`: a form, a condition or a setting could not be read.
* `RoutingFault`: a table is broken, references go wrong, or no host remains.
* `Fault`: these, a misused value, and a few more. -/

namespace SubmissionRouting

/-- A closed list of names, one of which must stand in a payload. -/
inductive Vocabulary where
  | combinator
  | operator
  | fieldKind
  | actionKind

/-- The title of a list of names. -/
def Vocabulary.title : Vocabulary → String
  | combinator => "Combinator"
  | operator => "Operator"
  | fieldKind => "FieldType"
  | actionKind => "ActionKind"

/-- Why a payload could not be read. -/
inductive PayloadFault where
  | notAMapping (found : Value)
  | missingKey (key : String)
  /-- The literal form of what was found is no name of the list. -/
  | unknownName (vocabulary : Vocabulary) (found : String)
  /-- The text of what was found is no type of a condition. -/
  | unknownConditionType (found : String)
  | invalidJson
  | invalidYaml
  | invalidYamlIn (file : String)
  | settingsNotAMapping
  | unknownSettings (names : List String)
  | parameterWithoutValue (text : String)

/-- The wording of a payload fault. -/
def PayloadFault.message : PayloadFault → String
  | notAMapping v => "Expected a mapping, got " ++ v.kind
  | missingKey key => "Missing required key " ++ Text.quoted key
  | unknownName vocabulary s => "Unknown " ++ vocabulary.title ++ " value: " ++ s
  | unknownConditionType s => "Unsupported condition dict type: " ++ s
  | invalidJson => "Invalid JSON"
  | invalidYaml => "Invalid YAML"
  | invalidYamlIn file => "Invalid YAML in " ++ file
  | settingsNotAMapping => "Engine config must be a mapping"
  | unknownSettings names => "Unknown config keys: " ++ ", ".intercalate names
  | parameterWithoutValue s => "Expected name=value, got " ++ Text.quoted s

/-- Why a table is broken. -/
inductive TableFault where
  | duplicateRoute (routeId : String)
  | fallbackCount (count : Nat)
  | fallbackNotLast
  | noFallback
  | fallbackFixed
  /-- No route has the id with this literal form. -/
  | unknownRoute (id : String)

/-- Why a submission could not be routed or a table not be saved. -/
inductive RoutingFault where
  | brokenTable (cause : TableFault) (formId : String)
  | selfReference (formId : String)
  | cyclic (path : List String)
  | formNotFound (formId : String)
  | noEligibleHost (decision : Decision)

/-- The wording of the fault of a table. -/
def TableFault.message (formId : String) : TableFault → String
  | duplicateRoute id =>
    "Duplicate route id " ++ Text.quoted id ++ " in form " ++ Text.quoted formId
  | fallbackCount n =>
    "Form " ++ Text.quoted formId ++ " must have exactly one fallback route, found " ++ decimalText n
  | fallbackNotLast => "Fallback route of form " ++ Text.quoted formId ++ " must be last"
  | noFallback => "Form " ++ Text.quoted formId ++ " has no fallback route"
  | fallbackFixed => "The fallback route cannot be reordered"
  | unknownRoute id => "Unknown route id " ++ id

/-- A chain of forms as it is shown. -/
def chainText (path : List String) : String := " -> ".intercalate path

/-- The wording of a routing fault. -/
def RoutingFault.message : RoutingFault → String
  | brokenTable cause formId => cause.message formId
  | selfReference formId => "Form " ++ Text.quoted formId ++ " cannot route through itself"
  | cyclic path => "Cyclic router references: " ++ chainText path
  | formNotFound formId => "Referenced form " ++ Text.quoted formId ++ " was not found"
  | noEligibleHost _ => "No host satisfies the attribute routing rules"

/-- The form that a routing fault names. -/
def RoutingFault.formId? : RoutingFault → Option String
  | brokenTable _ formId => some formId
  | selfReference formId => some formId
  | formNotFound formId => some formId
  | cyclic _ => none
  | noEligibleHost _ => none

/-- Why there is no text to be read under a name. -/
inductive FileFault where
  /-- There is no such file. -/
  | missing
  /-- The name is that of a directory. -/
  | isDirectory
  /-- The name goes on after that of a file. -/
  | beyondFile
  /-- The name is longer than names may be. -/
  | tooLong
  /-- No file can have the name. -/
  | unnameable
deriving DecidableEq

/-- The wording of the fault of a file. -/
def FileFault.message (name : String) : FileFault → String
  | missing => "There is no file " ++ Text.quoted name
  | isDirectory => "There is a directory, not a file, at " ++ Text.quoted name
  | beyondFile => "There is a file, not a directory, on the way to " ++ Text.quoted name
  | tooLong => "The name of a file is too long: " ++ Text.quoted name
  | unnameable => "No file can have the name " ++ Text.quoted name

/-- Why a computation stopped. -/
inductive Fault where
  /-- A value was of the wrong kind for its use. -/
  | misuse (cause : Misuse)
  /-- A payload could not be read. -/
  | payload (cause : PayloadFault)
  /-- A submission could not be routed, or a table not be saved. -/
  | routing (cause : RoutingFault)
  /-- Neither the table nor the caller knows the fields of a form. -/
  | noCatalog (formId : String)
  /-- Nothing stands where a group has a condition. -/
  | missingCondition
  /-- No form is stored under an id. -/
  | notStored (formId : Value)
  /-- A file could not be read. -/
  | file (cause : FileFault) (name : String)

/-- The wording of a fault; a misused value has none of its own. -/
def Fault.message : Fault → String
  | misuse _ => "A value is of the wrong kind"
  | payload cause => cause.message
  | routing cause => cause.message
  | noCatalog formId => "No field catalog available for form " ++ Text.quoted formId
  | missingCondition => "Unsupported condition node: <class 'NoneType'>"
  | notStored _ => "No form is stored under this id"
  | file cause name => cause.message name

/-- Results that may be faults. -/
abbrev Result := Except Fault

/-- The misuse of a value is a fault. -/
def orFault {α : Type} : Except Misuse α → Result α
  | .ok a => .ok a
  | .error e => .error (.misuse e)

/-- The fault of a table or of references is a fault. -/
def orRoutingFault {α : Type} : Except RoutingFault α → Result α
  | .ok a => .ok a
  | .error e => .error (.routing e)

instance : MonadLift (Except Misuse) Result := ⟨orFault⟩

end SubmissionRouting
