import SubmissionRouting.Value.Items
import SubmissionRouting.Condition.Basic
import SubmissionRouting.Fault

/-! # Conditions as payloads

The payload of a condition is a mapping with a `type`. A group has a `combinator`, which is *and* if
it is left out, and `children`; a rule has a `field`, an `operator` and a `value`. Nothing is the
payload of a missing condition. Other keys are of no account.

A payload can contain itself. What stands for a comparand then does not matter, but conditions that are
nested in one another without end are a misuse.

* `Value.required`: what a key stands for in a payload that must have it.
* `Condition.ofPayload?`: reads a condition. A comparand that is a list is read as a tuple.
* `Condition.toPayload`: writes a condition. -/

namespace SubmissionRouting

namespace Value

/-- The entries of a payload. -/
def entries (v : Value) : Result (List (Value × Value)) :=
  match v.opened with
  | map es => .ok es
  | _ => .error (.payload (.notAMapping v))

/-- What a key stands for in entries that must have it. -/
def requiredIn (es : List (Value × Value)) (key : String) : Result Value :=
  match member? es key with
  | some v => .ok v
  | none => .error (.payload (.missingKey key))

/-- What a key stands for in a payload that must have it. -/
def required (v : Value) (key : String) : Result Value := do requiredIn (← v.entries) key

/-- Nothing in a closed list has the name that was found. -/
def unknownName {α : Type} (vocabulary : Vocabulary) (found : Value) : Result α := do
  let s ← found.literal
  .error (.payload (.unknownName vocabulary s))

/-- A name of a closed list. -/
def named {α : Type} (vocabulary : Vocabulary) (ofName? : String → Option α) (v : Value) :
    Result α :=
  match v with
  | text s =>
    match ofName? s with
    | some a => .ok a
    | none => unknownName vocabulary v
  | _ => unknownName vocabulary v

/-- A list as a tuple; any other value as it is. -/
def fixed (v : Value) : Value :=
  match v.opened with
  | list vs => tuple vs
  | _ => v

mutual

/-- A tuple as a list, and so the tuples directly in it; any other value as it is. -/
def plain : Value → Value
  | tuple vs => list (plainAll vs)
  | v => v
termination_by structural v => v

/-- Several values without tuples. -/
def plainAll : List Value → List Value
  | [] => []
  | v :: vs => plain v :: plainAll vs
termination_by structural vs => vs

end

end Value

/-- The rule in the entries of a payload. -/
def Rule.ofEntries? (es : List (Value × Value)) : Result Rule := do
  let field ← Value.requiredIn es "field"
  let operator ← (← Value.requiredIn es "operator").named .operator Operator.ofName?
  pure ⟨field, operator, (Value.memberD es "value" .null).fixed⟩

/-- The entries of the payload of a rule. -/
def Rule.toPayload (r : Rule) : Value :=
  .map [(.text "type", .text "rule"), (.text "field", r.field),
    (.text "operator", .text r.operator.name), (.text "value", r.comparand.plain)]

namespace Condition

/-- The type of a payload is that of no condition. -/
def unknownType (type : Value) : Result Condition := do
  let s ← type.shown
  .error (.payload (.unknownConditionType s))

mutual

/-- The condition in a payload, given how those in knots are read. -/
def read (inKnot : Value → Result Condition) : Value → Result Condition
  | .null => .ok missing
  | .map es => do
    let type ← Value.requiredIn es "type"
    if type.same (.text "group") then
      let combinator ← (Value.memberD es "combinator" (.text "AND")).named .combinator
        Combinator.ofName?
      let children ← readChildren inKnot es
      pure (group combinator children)
    else if type.same (.text "rule") then
      let r ← Rule.ofEntries? es
      pure (rule r)
    else unknownType type
  | .knot strands start => inKnot (.knot strands start)
  | v => .error (.payload (.notAMapping v))
termination_by structural v => v

/-- The conditions for which `children` stands in entries. -/
def readChildren (inKnot : Value → Result Condition) :
    List (Value × Value) → Result (List Condition)
  | [] => .ok []
  | (k, v) :: es =>
    if k.same (.text "children") then readItems inKnot v else readChildren inKnot es
termination_by structural es => es

/-- The conditions in the items of a value. -/
def readItems (inKnot : Value → Result Condition) : Value → Result (List Condition)
  | .list vs => readAll inKnot vs
  | .tuple vs => readAll inKnot vs
  | .set vs => readAll inKnot vs
  | .map es => readKeys inKnot es
  | .text s =>
    match s.toList with
    | [] => .ok []
    | c :: _ => .error (.payload (.notAMapping (.text (String.singleton c))))
  | .knot strands start => do
    let vs ← (Value.knot strands start).items
    vs.mapM inKnot
  | _ => .error (.misuse .notIterable)
termination_by structural v => v

/-- The conditions in several payloads. -/
def readAll (inKnot : Value → Result Condition) : List Value → Result (List Condition)
  | [] => .ok []
  | v :: vs => do
    let c ← read inKnot v
    let cs ← readAll inKnot vs
    pure (c :: cs)
termination_by structural vs => vs

/-- The conditions in the keys of entries. -/
def readKeys (inKnot : Value → Result Condition) :
    List (Value × Value) → Result (List Condition)
  | [] => .ok []
  | (k, _) :: es => do
    let c ← read inKnot k
    let cs ← readKeys inKnot es
    pure (c :: cs)
termination_by structural es => es

end

/-- The condition in a payload that stands inside so many knots at most. -/
def ofPayloadWithin : Nat → Value → Result Condition
  | 0, _ => .error (.misuse .bottomless)
  | depth + 1, v => read (ofPayloadWithin depth) v.opened

/-- The condition in a payload. -/
def ofPayload? (v : Value) : Result Condition := ofPayloadWithin (v.strandCount + 1) v

mutual

/-- The payload of a condition. -/
def toPayload : Condition → Value
  | missing => .null
  | rule r => r.toPayload
  | group c children =>
    .map [(.text "type", .text "group"), (.text "combinator", .text c.name),
      (.text "children", .list (toPayloads children))]
termination_by structural c => c

/-- The payloads of several conditions. -/
def toPayloads : List Condition → List Value
  | [] => []
  | c :: cs => toPayload c :: toPayloads cs
termination_by structural cs => cs

end

end Condition

end SubmissionRouting
