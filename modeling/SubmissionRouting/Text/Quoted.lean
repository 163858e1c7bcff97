import SubmissionRouting.Text.Hexadecimal
import SubmissionRouting.Text.Printable

/-! # Quoted text

The form in which a text is shown inside a message or inside a list. A text stands in single quotes,
or in double quotes if it holds a single quote and no double quote. The quote in use and the
backslash are escaped by a backslash; line feed, carriage return and tab have letters of their own;
every other unprintable character is written by its code in two, four or eight hexadecimal digits.

* `quoted`: the quoted form of a text. -/

namespace SubmissionRouting.Text

/-- A character by its code: two, four or eight digits, whichever is enough. -/
def escapeByCode (n : Nat) : List Char :=
  if n ≤ 0xFF then '\\' :: 'x' :: hexDigits 2 n
  else if n ≤ 0xFFFF then '\\' :: 'u' :: hexDigits 4 n
  else '\\' :: 'U' :: hexDigits 8 n

/-- A character inside text quoted by `quote`. -/
def quotedChar (quote c : Char) : List Char :=
  if c = quote ∨ c = '\\' then ['\\', c]
  else if c = '\n' then ['\\', 'n']
  else if c = '\r' then ['\\', 'r']
  else if c = '\t' then ['\\', 't']
  else if isPrintable c then [c]
  else escapeByCode c.toNat

/-- The quote for a text: the single one, unless only that one occurs in it. -/
def quoteFor (cs : List Char) : Char :=
  if '\x27' ∈ cs ∧ '\x22' ∉ cs then '\x22' else '\x27'

/-- The quoted form of a list of characters. -/
def quotedChars (cs : List Char) : List Char :=
  let quote := quoteFor cs
  quote :: cs.flatMap (quotedChar quote) ++ [quote]

/-- The quoted form of a text. -/
def quoted (s : String) : String := String.ofList (quotedChars s.toList)

end SubmissionRouting.Text
