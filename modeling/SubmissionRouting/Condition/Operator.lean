import SubmissionRouting.Text.CaseFold
import SubmissionRouting.Number.Reading
import SubmissionRouting.Value.Literal
import SubmissionRouting.Value.Items
import SubmissionRouting.Form.Field
import SubmissionRouting.Condition.Basic

/-! # Operators

What the operators of rules say of a value, given the comparand and the slot of the field.

Texts are compared without the blanks at their ends and without regard to case; several values hold
what one of them holds. Choices are compared by id, and a label counts as the id of its choice.
Numbers are compared as double precision numbers; what does not denote a number satisfies no
numeric operator. The texts of two values are formed only if the verdict needs them, so that a value
without a text is a misuse only then.

* `Value.number`: the number that a value denotes.
* `Slot.choice?`: the choice that a value names.
* `Slot.choiceIds`: the ids of the choices that a value names.
* `Value.comparisonTexts`: the texts to compare.
* `Operator.holds`: the verdict of an operator. -/

namespace SubmissionRouting

namespace Value

/-- The number that a text denotes. -/
def numberInText? (s : String) : Option Binary64 := (Binary64.ofText? s).filter (!·.isNaN)

/-- The number that a value denotes: a number, or a text that can be read as one. -/
def number : Value → Except Misuse (Option Binary64)
  | int n =>
    match Binary64.ofInt? n with
    | some x => .ok (some x)
    | none => .error .numberTooLarge
  | float x => .ok (if x.isNaN then none else some x)
  | text s => .ok (numberInText? s)
  | _ => .ok none

/-- A text without the blanks at its ends and without regard to case. -/
def foldedText (s : String) : List Char := Text.foldCase (Text.trim s.toList)

/-- The text of a value, without the blanks at its ends and without regard to case. -/
def comparisonText (v : Value) : Except Misuse (List Char) := foldedText <$> v.shown

/-- The texts of the values that a value lists. -/
def comparisonTexts (v : Value) : Except Misuse (List (List Char)) :=
  (v.asList.filter fun w => !w.isNull).mapM comparisonText

end Value

namespace Slot

/-- The choice that a text names: by id, or else by label. -/
def choice? (slot : Slot) (s : String) : Option Choice :=
  (choiceById? slot.choices s).or (choiceByLabel? slot.choices (.text s))

/-- The id of the choice that a text names; any other text is its own id. -/
def idOfText (slot : Slot) (s : String) : String :=
  match slot.choice? s with
  | some c => c.id
  | none => s

/-- The id of the choice that a value names. -/
def choiceId (slot : Slot) (v : Value) : Except Misuse String := slot.idOfText <$> v.shown

/-- The ids of the choices that a value lists. -/
def choiceIds (slot : Slot) (v : Value) : Except Misuse (List String) :=
  (v.asList.filter fun w => !w.isEmpty).mapM slot.choiceId

end Slot

namespace Operator

/-- Every member of the first list is one of the second. -/
def subset (xs ys : List String) : Bool := xs.all fun x => ys.contains x

/-- The lists have the same members. -/
def sameChoices (chosen wanted : List String) : Bool :=
  subset chosen wanted && subset wanted chosen

/-- Both values denote numbers in a relation. -/
def compare (relation : Binary64 → Binary64 → Bool) (value comparand : Value) :
    Except Misuse Bool := do
  let left ← value.number
  let right ← comparand.number
  match left, right with
  | some x, some y => pure (relation x y)
  | _, _ => pure false

/-- The two numbers that a comparand lists. -/
def bounds (comparand : Value) : Except Misuse (Option (Binary64 × Binary64)) := do
  match comparand.asList with
  | [a, b] =>
    let low ← a.number
    let high ← b.number
    match low, high with
    | some x, some y => pure (some (x, y))
    | _, _ => pure none
  | _ => pure none

/-- The value denotes a number that lies between the bounds, or outside of them. -/
def compareBounds (inside : Bool) (value comparand : Value) : Except Misuse Bool := do
  let number ← value.number
  let limits ← bounds comparand
  match number, limits with
  | some x, some (low, high) => pure ((low.atMost x && x.atMost high) == inside)
  | _, _ => pure false

/-- The choices are exactly those listed. -/
def choicesEqualHolds (value comparand : Value) (slot : Slot) : Except Misuse Bool := do
  match ← slot.choiceIds value with
  | [] => pure false
  | chosen => pure (sameChoices chosen (← slot.choiceIds comparand))

/-- The first choice is the one that the comparand names. -/
def firstChoiceEquals (value comparand : Value) (slot : Slot) : Except Misuse Bool := do
  match ← slot.choiceIds value with
  | [] => pure false
  | id :: _ => pure (id == (← slot.choiceId comparand))

/-- One of the texts of the value is the text of the comparand. -/
def textEquals (value comparand : Value) : Except Misuse Bool := do
  let wanted ← comparand.comparisonText
  pure ((← value.comparisonTexts).contains wanted)

/-- Equality, by the kind of the slot. -/
def equalsHolds (value comparand : Value) (slot : Slot) : Except Misuse Bool :=
  if value.isEmpty then pure false
  else if slot.kind.isMultiChoice then choicesEqualHolds value comparand slot
  else if slot.kind.hasChoices then firstChoiceEquals value comparand slot
  else if slot.kind = .number then compare Binary64.same value comparand
  else textEquals value comparand

/-- One of the texts of the value starts or ends with the text of the comparand. -/
def anyText (relation : List Char → List Char → Bool) (value comparand : Value) :
    Except Misuse Bool :=
  if value.isEmpty then pure false
  else do
    match ← value.comparisonTexts with
    | [] => pure false
    | texts =>
      let wanted ← comparand.comparisonText
      pure (texts.any fun t => relation wanted t)

/-- The first text stands somewhere in the second. -/
def occursIn (needle : List Char) : List Char → Bool
  | [] => needle.isEmpty
  | c :: cs => needle.isPrefixOf (c :: cs) || occursIn needle cs

/-- The text of the comparand stands somewhere in one of the texts of the value. -/
def textContains (value comparand : Value) : Except Misuse Bool := do
  let needle ← comparand.comparisonText
  pure ((← value.comparisonTexts).any fun t => occursIn needle t)

/-- All of those listed are chosen. -/
def allInHolds (value comparand : Value) (slot : Slot) : Except Misuse Bool := do
  match ← slot.choiceIds comparand with
  | [] => pure false
  | wanted => pure (subset wanted (← slot.choiceIds value))

/-- Containment: of all wanted choices, or of a text. -/
def containsHolds (value comparand : Value) (slot : Slot) : Except Misuse Bool :=
  if value.isEmpty then pure false
  else if slot.kind.hasChoices then allInHolds value comparand slot
  else textContains value comparand

/-- The first choice is one of those listed. -/
def selectAnyInHolds (value comparand : Value) (slot : Slot) : Except Misuse Bool := do
  match ← slot.choiceIds value with
  | [] => pure false
  | id :: _ => pure ((← slot.choiceIds comparand).contains id)

/-- One of the choices is one of those listed. -/
def someInHolds (value comparand : Value) (slot : Slot) : Except Misuse Bool := do
  let chosen ← slot.choiceIds value
  let wanted ← slot.choiceIds comparand
  pure (chosen.any fun id => wanted.contains id)

/-- The other verdict. -/
def negated (verdict : Except Misuse Bool) : Except Misuse Bool := verdict.map (!·)

/-- The verdict of an operator on a value. -/
def holds (o : Operator) (value comparand : Value) (slot : Slot) : Except Misuse Bool :=
  match o with
  | equals => equalsHolds value comparand slot
  | notEquals => negated (equalsHolds value comparand slot)
  | contains => containsHolds value comparand slot
  | notContains => negated (containsHolds value comparand slot)
  | startsWith => anyText List.isPrefixOf value comparand
  | endsWith => anyText List.isSuffixOf value comparand
  | isEmpty => pure value.isEmpty
  | isNotEmpty => pure (!value.isEmpty)
  | greater => compare (fun x y => y.less x) value comparand
  | greaterOrEqual => compare (fun x y => y.atMost x) value comparand
  | less => compare Binary64.less value comparand
  | lessOrEqual => compare Binary64.atMost value comparand
  | between => compareBounds true value comparand
  | notBetween => compareBounds false value comparand
  | selectAnyIn => selectAnyInHolds value comparand slot
  | selectNotAnyIn => negated (selectAnyInHolds value comparand slot)
  | multiselectSomeIn => someInHolds value comparand slot
  | multiselectAllIn => allInHolds value comparand slot
  | multiselectEquals => choicesEqualHolds value comparand slot
  | multiselectNotEquals => negated (choicesEqualHolds value comparand slot)

end Operator

end SubmissionRouting
