import SubmissionRouting.Yaml.Plain
import SubmissionRouting.Fault

/-! # The values of scalars

The value that the text of a scalar has, given its kind. A tag can name a kind for any text, so a
text may turn out not to denote such a value. What is not a number gets a mark, unless it is written as
the word for it.

* `wholeNumber?`: a whole number in some base.
* `intValue`, `floatValue`, `boolValue`, `stampValue`: the values of the kinds.
* `scalarValue`: the value of a scalar of a kind. -/

namespace SubmissionRouting.Yaml

/-! ### Whole numbers -/

/-- The value of a digit in any base up to sixteen. -/
def digitIn? (base : Nat) (c : Char) : Option Nat := do
  let d ← (Text.digitValue? c).or (Text.hexValue? c)
  if d < base then some d else none

/-- The letter after a zero that marks a base. -/
def baseLetter (base : Nat) : Char :=
  if base = 2 then 'b' else if base = 8 then 'o' else 'x'

/-- The digits without the mark of their base. -/
def withoutBaseMark (base : Nat) (cs : List Char) : List Char :=
  match cs with
  | '0' :: l :: digits => if base ≠ 10 && l.toLower = baseLetter base then digits else cs
  | _ => cs

/-- The whole number that a text denotes in a base, with a sign and with blanks at its ends. -/
def wholeNumber? (base : Nat) (cs : List Char) : Option Int := do
  let (negative, rest) := Text.takeSign (Text.trim cs)
  let digits := withoutBaseMark base rest
  if digits.isEmpty || (base = 10 && digits.length > Text.digitLimit) then none
  else
    let n ← digits.foldlM (fun n c => (digitIn? base c).map fun d => base * n + d) 0
    some (if negative then -(n : Int) else n)

/-- A misuse as a fault. -/
def orMisuse {α : Type} (cause : Misuse) : Option α → Result α
  | some a => .ok a
  | none => .error (.misuse cause)

/-- The whole number that a text denotes. -/
def whole (base : Nat) (cs : List Char) : Result Int :=
  orMisuse .badNumber (wholeNumber? base cs)

/-- The text without its low lines. -/
def withoutLowLines (cs : List Char) : List Char := cs.filter (· ≠ '_')

/-- The number whose sexagesimal digits are given. -/
def sexagesimal (digits : List Int) : Int := digits.foldl (fun n d => 60 * n + d) 0

/-- The magnitude of a whole number, in the base that its form says. -/
def magnitude (cs : List Char) : Result Int :=
  match cs with
  | [] => .error (.misuse .emptyNumber)
  | ['0'] => .ok 0
  | '0' :: 'b' :: digits => whole 2 digits
  | '0' :: 'x' :: digits => whole 16 digits
  | '0' :: _ => whole 8 cs
  | cs =>
    if cs.contains ':' then do
      let digits ← (colonParts cs).mapM (whole 10)
      pure (sexagesimal digits)
    else whole 10 cs

/-- The value of a whole number. -/
def intValue (cs : List Char) : Result Value :=
  match withoutLowLines cs with
  | [] => .error (.misuse .emptyNumber)
  | cs => do
    let (negative, rest) := Text.takeSign cs
    let n ← magnitude rest
    pure (.int (if negative then -n else n))

/-! ### Numbers with a point -/

/-- The number next to a decimal. -/
def decimal (cs : List Char) : Result Binary64 := orMisuse .badNumber (Binary64.ofChars? cs)

/-- The sum of sexagesimal digits times the powers of sixty, the last digit first. -/
def sexagesimalSum (digits : List Binary64) : Result Binary64 := do
  let (_, sum) ← digits.reverse.foldlM (fun (state : Int × Binary64) d => do
    let (base, sum) := state
    let weight ← orMisuse .numberTooLarge (Binary64.ofInt? base)
    pure (base * 60, sum.add (d.mul weight))) (1, Binary64.zero false)
  pure sum

/-- The value of a number with a point, given the mark of what is not a number. -/
def floatValue (mark : Mark) (cs : List Char) : Result Value :=
  match (withoutLowLines cs).map Char.toLower with
  | [] => .error (.misuse .emptyNumber)
  | cs => do
    let (negative, rest) := Text.takeSign cs
    if rest = ".nan".toList then pure (.float .undefined)
    else
      let x ←
        if rest = ".inf".toList then pure (Binary64.infinity false)
        else if rest.contains ':' then do
          let digits ← (colonParts rest).mapM decimal
          sexagesimalSum digits
        else decimal rest
      pure (.float ((if negative then x.negate else x).withMark mark))

/-! ### Truth values, days and moments -/

/-- The value of a truth value. -/
def boolValue (s : String) : Result Value :=
  let word := s.toLower
  if trueWords.contains word then .ok (.bool true)
  else if falseWords.contains word then .ok (.bool false)
  else .error (.misuse .badTruthValue)

/-- The millionths of a second that a fraction denotes; further digits do not count. -/
def microseconds (fraction : List Char) : Nat :=
  Text.decimalValue ((fraction ++ List.replicate 6 '0').take 6)

/-- The moment on a day. -/
def momentOn (d : Date) (t : StampTime) : Moment :=
  ⟨d, t.hour, t.minute, t.second, microseconds t.fraction, t.offset⟩

/-- The value of a day or moment, which must exist. -/
def stampValue (cs : List Char) : Result Value :=
  match stamp? (significant cs) with
  | none => .error (.misuse .badDate)
  | some s =>
    let d : Date := ⟨s.year, s.month, s.day⟩
    match s.time with
    | none => if d.isValid then .ok (.date d) else .error (.misuse .badNumber)
    | some t =>
      let m := momentOn d t
      if m.isValid then .ok (.moment m) else .error (.misuse .badNumber)

/-! ### Scalars of a kind -/

/-- The value of a scalar, if there are scalars of its kind. -/
def scalarValue (mark : Mark) (kind : Kind) (s : String) : Option (Result Value) :=
  match kind with
  | .null => some (.ok .null)
  | .bool => some (boolValue s)
  | .int => some (intValue s.toList)
  | .float => some (floatValue mark s.toList)
  | .text => some (.ok (.text s))
  | .stamp => some (stampValue s.toList)
  | _ => none

end SubmissionRouting.Yaml
