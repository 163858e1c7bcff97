import SubmissionRouting.Json.Token
import SubmissionRouting.Value.Mapping

/-! # Reading JSON

The tokens of a text are read one by one. The lists and mappings that are still open stand on a
stack, the innermost first, and what may come next is known at every token. Of two entries with the
same key the later counts, in the place of the earlier. The first fault from left to right is the one
that is reported: a whole number has too many digits only where a value may stand.

* `Frame`: a list or a mapping that is still open.
* `Parse.step`: one more token.
* `read`: the value of a text. -/

namespace SubmissionRouting.Json

/-- The fault of a text that is no JSON. -/
def malformed {α : Type} : Result α := .error (.payload .invalidJson)

/-- A list or a mapping that is still open. Items stand in reverse order. -/
inductive Frame where
  | list (items : List Value)
  | map (entries : Mapping Value)
  | entry (entries : Mapping Value) (key : String)

/-- What comes next. -/
inductive Expected where
  /-- A value. -/
  | value
  /-- A value, or the end of an empty list. -/
  | firstItem
  /-- A key, or the end of an empty mapping. -/
  | firstKey
  /-- A key. -/
  | key
  /-- The colon after a key. -/
  | colon
  /-- A comma, or the end of a list or mapping. -/
  | separator
  /-- Nothing more: this is the value. -/
  | done (v : Value)

/-- What is still open, and what comes next. -/
structure Parse where
  frames : List Frame
  expected : Expected

namespace Parse

/-- A value is complete. -/
def complete (frames : List Frame) (v : Value) : Result Parse :=
  match frames with
  | [] => .ok ⟨[], .done v⟩
  | .list items :: frames => .ok ⟨.list (v :: items) :: frames, .separator⟩
  | .entry es key :: frames => .ok ⟨.map (es.put (.text key) v) :: frames, .separator⟩
  | .map _ :: _ => malformed

/-- A value starts. -/
def startValue (frames : List Frame) (t : Token) : Result Parse :=
  match t with
  | .openList => .ok ⟨.list [] :: frames, .firstItem⟩
  | .openMap => .ok ⟨.map [] :: frames, .firstKey⟩
  | .text s => complete frames (.text s)
  | .scalar v => complete frames v
  | .tooLong => .error (.misuse .tooManyDigits)
  | _ => malformed

/-- The innermost list or mapping ends. -/
def close (frames : List Frame) (t : Token) : Result Parse :=
  match t, frames with
  | .closeList, .list items :: frames => complete frames (.list items.reverse)
  | .closeMap, .map es :: frames => complete frames (.map es)
  | _, _ => malformed

/-- A key starts an entry. -/
def startEntry (frames : List Frame) (t : Token) : Result Parse :=
  match t, frames with
  | .text key, .map es :: frames => .ok ⟨.entry es key :: frames, .colon⟩
  | _, _ => malformed

/-- One more token. -/
def step (p : Parse) (t : Token) : Result Parse :=
  match p.expected, t with
  | .value, t => startValue p.frames t
  | .firstItem, .closeList => close p.frames t
  | .firstItem, t => startValue p.frames t
  | .firstKey, .closeMap => close p.frames t
  | .firstKey, t => startEntry p.frames t
  | .key, t => startEntry p.frames t
  | .colon, .colon => .ok ⟨p.frames, .value⟩
  | .separator, .comma =>
    match p.frames with
    | .map _ :: _ => .ok ⟨p.frames, .key⟩
    | _ => .ok ⟨p.frames, .value⟩
  | .separator, t => close p.frames t
  | _, _ => malformed

end Parse

/-- The value of a text. -/
def read (s : String) : Result Value := do
  let p ← (tokens s.toList).foldlM Parse.step ⟨[], .value⟩
  match p.expected with
  | .done v => pure v
  | _ => malformed

end SubmissionRouting.Json
