import SubmissionRouting.Text.Blank
import SubmissionRouting.Text.Digit
import SubmissionRouting.Number.Binary64

/-! # Reading decimals

A decimal is a sign, digits with at most one point among them, and an exponent; sign and exponent may
be missing, and so may the digits on one side of the point. A low line may stand between two digits.
`inf`, `infinity` and `nan` are read in small and in capital letters. Digits of all scripts count,
and blanks at both ends do not matter. The result is the double precision number next to the decimal,
however long it is; beyond the greatest number that is infinity.

* `withoutLowLines?`: the text without its low lines, if they are well placed.
* `Binary64.ofDecimal`: the number next to `mantissa · 10 ^ exponent`.
* `Binary64.ofText?`: reads a text. -/

namespace SubmissionRouting

namespace Text

/-- A digit of any script as a digit of the first ten. -/
def plainDigit (c : Char) : Char :=
  match digitValue? c with
  | some d => Char.ofNat (0x30 + d)
  | none => c

/-- A digit of the first ten. -/
def isPlainDigit (c : Char) : Bool := '0' ≤ c && c ≤ '9'

/-- The text after `previous` without its low lines, if each stands between two digits. -/
def withoutLowLines? (previous : Char) : List Char → Option (List Char)
  | [] => if previous = '_' then none else some []
  | c :: cs =>
    if c = '_' then
      if isPlainDigit previous then withoutLowLines? c cs else none
    else if previous = '_' ∧ !isPlainDigit c then none
    else (withoutLowLines? c cs).map (c :: ·)

/-- A leading sign, read as "is negative", and the rest. -/
def takeSign : List Char → Bool × List Char
  | '-' :: cs => (true, cs)
  | '+' :: cs => (false, cs)
  | cs => (false, cs)

/-- A nonempty run of digits at the start and the rest. -/
def takeDigits (cs : List Char) : List Char × List Char := (cs.takeWhile isPlainDigit, cs.dropWhile isPlainDigit)

end Text

namespace Binary64

open Text

/-- The number next to `mantissa · 10 ^ exponent`. Decimals far outside the range of the numbers are
settled by their size alone. -/
def ofDecimal (negative : Bool) (mantissa : Nat) (exponent : Int) : Binary64 :=
  if mantissa = 0 then zero negative
  else
    let size := ((Nat.toDigits 10 mantissa).length : Int) + exponent
    if size > 400 then infinity negative
    else if size < -400 then zero negative
    else if 0 ≤ exponent then ofRatio negative (mantissa * Nat.pow 10 exponent.toNat) 1
    else ofRatio negative mantissa (Nat.pow 10 (-exponent).toNat)

/-- The exponent at the end of a decimal: nothing, or `e`, a sign and digits. -/
def exponent? : List Char → Option Int
  | [] => some 0
  | c :: cs =>
    if c = 'e' ∨ c = 'E' then
      let (negative, digits) := takeSign cs
      if digits.isEmpty ∨ !digits.all isPlainDigit then none
      else some (if negative then -(decimalValue digits : Int) else decimalValue digits)
    else none

/-- The number next to a decimal without sign. -/
def ofUnsigned? (negative : Bool) (cs : List Char) : Option Binary64 :=
  let (whole, rest) := takeDigits cs
  let (part, rest) :=
    match rest with
    | '.' :: rest => takeDigits rest
    | rest => ([], rest)
  if whole.isEmpty ∧ part.isEmpty then none
  else
    (exponent? rest).map fun e =>
      ofDecimal negative (decimalValue (whole ++ part)) (e - part.length)

/-- The number that a list of characters denotes. -/
def ofChars? (cs : List Char) : Option Binary64 := do
  let plain ← withoutLowLines? ' ' ((trim cs).map plainDigit)
  let (negative, rest) := takeSign plain
  let word := rest.map Char.toLower
  if word = "inf".toList ∨ word = "infinity".toList then some (infinity negative)
  else if word = "nan".toList then some undefined
  else ofUnsigned? negative rest

/-- The number that a text denotes. -/
def ofText? (s : String) : Option Binary64 := ofChars? s.toList

end Binary64

end SubmissionRouting
