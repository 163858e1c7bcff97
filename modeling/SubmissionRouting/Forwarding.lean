import SubmissionRouting.Text.Percent
import SubmissionRouting.Decision
import SubmissionRouting.Response

/-! # Forwarding

The parameters that are handed on with a decision, in this order: those of the incoming address
except the ones that control the routing itself; the answers under the external names of their
fields, with choices shown by their labels; and the hosts that remain. A later entry replaces an
earlier one of the same name.

* `Field.display`: an answer as it is handed on.
* `hostLine`: the hosts that remain in one text, numbers first.
* `forwardParameters`: all parameters.
* `Parameters.queryString`: the parameters as a query string. -/

namespace SubmissionRouting

/-- The name under which the hosts that remain are handed on. -/
def defaultHostsParam : Value := .text "routedTeamMemberIds"

/-- The parameters of an address that control the routing itself. -/
def defaultControlParams : List Value := [.text "form", .text "pages", .text "slug"]

namespace Field

/-- The label of the choice with the id that a value shows; any other value is shown. -/
def choiceLabel (f : Field) (v : Value) : Except Misuse Value := do
  let s ← v.shown
  match choiceById? f.choices s with
  | some c => pure c.label
  | none => pure (.text s)

/-- The labels of the choices that an answer lists. -/
def choiceLabels (f : Field) (answer : Value) : Except Misuse (List Value) :=
  ((answer.sequence?.getD [answer]).filter fun v => !v.isNull).mapM f.choiceLabel

/-- The text of a value, as a value. -/
def shownText (v : Value) : Except Misuse Value := Value.text <$> v.shown

/-- An answer as it is handed on: a value, or a list of several. -/
def display (f : Field) (answer : Value) : Except Misuse Value :=
  if f.kind.isMultiChoice then Value.list <$> f.choiceLabels answer
  else if f.kind.isSingleChoice then do
    let labels ← f.choiceLabels answer
    pure (labels.headD (.text ""))
  else if answer.isNull then pure (.text "")
  else
    match answer.sequence?, answer with
    | some vs, _ => Value.list <$> vs.mapM shownText
    | none, .float x =>
      match x.toInt? with
      | some n => pure (.text (decimalText n))
      | none => shownText answer
    | none, _ => shownText answer

/-- The values that are handed on for an answer. -/
def displayed (f : Field) (answer : Value) : Except Misuse (List Value) := do
  let v ← f.display answer
  match v.opened with
  | .list vs => pure vs
  | _ => pure [v]

end Field

/-! ### Hosts -/

/-- The place of a host: whole numbers by value, then all other ids by their text. -/
inductive HostPlace where
  | number (n : Int)
  | name (s : String)

/-- The whole number that a text of decimal digits denotes, with a sign in front if it is negative. It
must not have too many digits. -/
def wholeNumber? (cs : List Char) : Except Misuse (Option Int) :=
  let (negative, digits) :=
    match cs with
    | '-' :: digits => (true, digits)
    | digits => (false, digits)
  if !Text.isDecimal digits then pure none
  else if digits.length > Text.digitLimit then .error .tooManyDigits
  else
    let n : Int := Text.decimalValue digits
    pure (some (if negative then -n else n))

/-- The place of the host with an id. -/
def hostPlace (id : Value) : Except Misuse HostPlace := do
  let s ← id.shown
  match ← wholeNumber? s.toList with
  | some n => pure (.number n)
  | none => pure (.name s)

/-- The order of places. -/
def HostPlace.atMost : HostPlace → HostPlace → Bool
  | number m, number n => m ≤ n
  | number _, name _ => true
  | name _, number _ => false
  | name s, name t => s ≤ t

/-- Hosts in the order of their places. -/
def sortedHosts (ids : List Value) : Except Misuse (List Value) := do
  let placed ← ids.mapM fun id => do pure (← hostPlace id, id)
  pure ((placed.mergeSort fun a b => a.1.atMost b.1).map (·.2))

/-- Hosts in one text, divided by commas. -/
def hostLine (ids : List Value) : Except Misuse String := do
  let texts ← (← sortedHosts ids).mapM Value.shown
  pure (",".intercalate texts)

/-! ### Parameters -/

/-- The values of an address with their names, one by one: a list stands for its items, so an empty one
for no value at all. -/
def singleValues (address : List (Value × Value)) : List (Value × Value) :=
  address.flatMap fun p => (p.2.sequence?.getD [p.2]).map (p.1, ·)

/-- Adds a value of the address as a text, unless its name controls the routing. The text is formed
before one looks at the name. -/
def addAddressValue (controls : List Value) (params : Parameters) (p : Value × Value) :
    Except Misuse Parameters := do
  let text ← Field.shownText p.2
  let name ← p.1.asKey
  pure (if name.isIn controls then params else Mapping.change params name [] (· ++ [text]))

/-- Adds the answer to a field. -/
def addDisplayed (catalog : Mapping Field) (params : Parameters) (answer : Value × Value) :
    Except Misuse Parameters :=
  match catalog.get? answer.1 with
  | none => pure params
  | some f => do
    let values ← f.displayed answer.2
    let name ← f.externalName.asKey
    pure (Mapping.put params name values)

/-- The parameters that are handed on. -/
def forwardParameters (response : Response) (fields : List Field) (address : List (Value × Value))
    (hosts : Option (List Value)) (hostsParam : Value) (controls : List Value) :
    Except Misuse Parameters := do
  let controls ← controls.mapM Value.asKey
  let params ← (singleValues address).foldlM (addAddressValue controls) []
  let catalog ← fieldsById fields
  let params ← response.foldlM (addDisplayed catalog) params
  match hosts with
  | none => pure params
  | some ids =>
    let line ← hostLine ids
    let name ← hostsParam.asKey
    pure (Mapping.put params name [.text line])

/-- Names and values one by one. -/
def Parameters.pairs (params : Parameters) : List (Value × Value) :=
  params.flatMap fun p => p.2.map fun v => (p.1, v)

/-- The parameters as a query string. -/
def Parameters.queryString (params : Parameters) : Except Misuse String := do
  let texts ← (Parameters.pairs params).mapM fun p => do pure (← p.1.shown, ← p.2.shown)
  pure (Text.queryString texts)

end SubmissionRouting
