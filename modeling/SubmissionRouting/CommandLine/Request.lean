import SubmissionRouting.CommandLine.Arguments

/-! # Requests

What the program can be asked to do: to route one response, or to check a form.

* `Request`: a task, and how the journal is shown.
* `Request.ofArguments?`: the request that arguments make.
* `Request.fileNames`: the files that a request names. -/

namespace SubmissionRouting.CommandLine

/-- One response to be routed, by the names of files. -/
structure RouteTask where
  form : Given
  response : Given
  /-- The file of the forms that references can lead to. -/
  forms : Option String
  /-- The file of the hosts and their attributes. -/
  hosts : Option String
  /-- The parameters of the incoming address. -/
  parameters : List Given
  /-- The file of the settings. -/
  settings : Option Given

/-- What the program can be asked to do. -/
inductive Task where
  | route (t : RouteTask)
  | check (form : Given)

/-- What the program is asked to do. -/
structure Request where
  /-- All records are shown, not only warnings. -/
  isVerbose : Bool
  /-- Records are shown in JSON. -/
  inJson : Bool
  task : Task

/-! ### Grammars -/

/-- The names of the tasks. -/
def taskNames : List String := ["route", "check"]

/-- The switches before the name of a task. -/
def mainGrammar : Grammar :=
  ⟨"formroute", [helpSwitch, .flag (some 'v') "verbose", .flag none "log-json"], ["command"], true⟩

/-- The arguments of the task `route`. -/
def routeGrammar : Grammar :=
  ⟨"formroute route",
    [helpSwitch, .valued "forms", .valued "hosts", .valued "param", .valued "config"],
    ["form", "response"], false⟩

/-- The arguments of the task `check`. -/
def checkGrammar : Grammar := ⟨"formroute check", [helpSwitch], ["form"], false⟩

/-! ### Reading -/

/-- A file that is named by a text that is not empty. -/
def namedFile : Option Given → Option String
  | some (some name) => if name = "" then none else some name
  | _ => none

/-- The task `route` with its arguments. -/
def RouteTask.ofFilled (f : Filled) : RouteTask :=
  { form := (f.last? "form").getD none
    response := (f.last? "response").getD none
    forms := namedFile (f.last? "forms")
    hosts := namedFile (f.last? "hosts")
    parameters := f.all "param"
    settings := f.last? "config" }

/-- The task with a name, and the arguments that it does not take. -/
def Task.read (name : String) (arguments : List String) : Except Stop (Task × List String) :=
  match name with
  | "route" => do
    let f ← routeGrammar.read arguments
    pure (.route (RouteTask.ofFilled f), f.extras)
  | "check" => do
    let f ← checkGrammar.read arguments
    pure (.check ((f.last? "form").getD none), f.extras)
  | name => .error (.misused mainGrammar (.invalidChoice "command" name taskNames))

/-- The request that arguments make. -/
def Request.ofArguments? (arguments : List String) : Except Stop Request := do
  let f ← mainGrammar.read arguments
  let name := ((f.last? "command").getD none).getD ""
  let (task, extras) ← Task.read name f.rest
  match f.extras ++ extras with
  | [] => pure ⟨f.has "verbose", f.has "log-json", task⟩
  | extras => .error (.misused mainGrammar (.unrecognized extras))

/-! ### Files -/

/-- The files that a task names. -/
def Task.fileNames : Task → List String
  | check form => form.toList
  | route t =>
    t.form.toList ++ t.response.toList ++ t.forms.toList ++ t.hosts.toList ++
      (t.settings.getD none).toList

/-- The files that a request names. -/
def Request.fileNames (r : Request) : List String := r.task.fileNames

end SubmissionRouting.CommandLine
