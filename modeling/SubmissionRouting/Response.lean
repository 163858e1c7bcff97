import SubmissionRouting.Condition.Operator
import SubmissionRouting.Journal

/-! # Responses

What is handed in to a form is put into the types that the form declares: the choices of a field
become ids, the text of a number becomes a number, and a list becomes a tuple. An answer to a field
that the form does not have is dropped, with a record in the journal; an answer that is none of the
choices is kept as text, with a record too.

* `RawResponse`: what is handed in.
* `Field.normalize`: one answer in the type of its field.
* `normalizeResponse`: a whole response. -/

namespace SubmissionRouting

/-- The answers to a form by the ids of its fields. -/
abbrev Response := Mapping Value

/-- What is handed in to a form. -/
inductive RawResponse where
  /-- Answers by field. An answer may stand in a mapping under the key `value`. -/
  | byField (answers : Mapping Value)
  /-- Answers one by one; of two answers to one field the later counts. -/
  | inTurn (answers : List (Value × Value))
  /-- Something that holds no answers. -/
  | malformed (cause : Misuse)

namespace RawResponse

/-- The answer itself, if it stands in a mapping under the key `value`. -/
def unwrapped (v : Value) : Value :=
  match v.opened with
  | .map es => (Value.member? es "value").getD v
  | _ => v

/-- The ids of fields with the answers to them, in order. -/
def answers : RawResponse → Except Misuse (List (Value × Value))
  | byField es => .ok (es.map fun e => (e.1, unwrapped e.2))
  | inTurn es => .ok es
  | malformed cause => .error cause

/-- A value taken as what is handed in: a mapping, or nothing at all. -/
def ofValue (v : Value) : RawResponse :=
  if !v.isTruthy then byField []
  else
    match v.opened with
    | .map es => byField es
    | _ =>
      match v.items with
      | .ok _ => malformed .notAMapping
      | .error cause => malformed cause

end RawResponse

namespace Field

/-- The id of the choice that an answer names. An answer that names none is kept, with a record. -/
def choiceId (f : Field) (answer : Value) : Journaled String := do
  let s ← answer.shown
  match f.slot.choice? s with
  | some c => pure c.id
  | none =>
    Journaled.note .warning .response
      ("Value " ++ Text.quoted s ++ " matches no option of field ") f.id
    pure s

/-- The ids of the choices that several answers name. -/
def choiceIds (f : Field) (answers : List Value) : Journaled (List String) :=
  answers.mapM f.choiceId

/-- No answer: nothing, or the empty text. -/
def isBlank (answer : Value) : Bool := answer.isNull || answer.same (.text "")

/-- A number in a text: whole if it can be. A text that holds none is kept. -/
def numeral (s : String) : Value :=
  match Value.numberInText? s with
  | none => .text s
  | some x =>
    match x.toInt? with
    | some n => .int n
    | none => .float x

/-- An answer in the type of the field. -/
def normalize (f : Field) (answer : Value) : Journaled Value :=
  if answer.isNull then pure .null
  else if f.kind.isMultiChoice then do
    let several := (answer.sequence?.getD [answer]).filter fun v => !isBlank v
    let ids ← f.choiceIds several
    pure (.tuple (ids.map .text))
  else if f.kind.isSingleChoice then
    let one :=
      match answer.sequence? with
      | some vs => vs.headD .null
      | none => answer
    if isBlank one then pure one
    else do
      let id ← f.choiceId one
      pure (.text id)
  else if f.kind = .number then
    match answer with
    | .text s => pure (numeral s)
    | v => pure v
  else
    match answer.sequence? with
    | some vs => pure (.tuple vs)
    | none => pure answer

end Field

/-- The fields by id; of two with the same id the later counts. -/
def fieldsById (fields : List Field) : Except Misuse (Mapping Field) :=
  Mapping.ofPairs? (fields.map fun f => (f.id, f))

/-- Adds one answer to a response. -/
def addAnswer (catalog : Mapping Field) (response : Response) (answer : Value × Value) :
    Journaled Response := do
  let id ← answer.1.asKey
  match catalog.get? id with
  | none =>
    Journaled.note .warning .response "Dropping response for unknown field " id
    pure response
  | some f =>
    let value ← f.normalize answer.2
    pure (response.put id value)

/-- The response in the types of the fields. -/
def normalizeResponse (fields : List Field) (raw : RawResponse) : Journaled Response := do
  let catalog ← fieldsById fields
  let answers ← raw.answers
  answers.foldlM (addAnswer catalog) []

end SubmissionRouting
