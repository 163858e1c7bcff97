import SubmissionRouting.Text.Hexadecimal
import SubmissionRouting.Number.Reading
import SubmissionRouting.Fault

/-! # JSON tokens

The characters of a JSON text make tokens: punctuation, texts in double quotes, and words. A word is
a longest run of letters, digits, signs and points; it is a number or one of the words with a
meaning of their own. Blanks between tokens do not matter. Where a text goes wrong the tokens end; what
stands before that place may already be out of order.

* `Token`: the tokens.
* `numberToken`: the number that a word starts with.
* `wordToken`: what a word stands for.
* `joinUnits`: the characters of a text, with two halves of an escaped pair put together.
* `tokens`: the tokens of a text. -/

namespace SubmissionRouting.Json

/-- A token. -/
inductive Token where
  | openList
  | closeList
  | openMap
  | closeMap
  | comma
  | colon
  | text (s : String)
  | scalar (v : Value)
  /-- A whole number with too many digits. -/
  | tooLong
  /-- The place at which the text goes wrong. -/
  | broken

/-! ### Words -/

/-- The whole part at the start of a number, and the rest: a zero, or digits that do not start with
one. -/
def takeWhole (cs : List Char) : List Char × List Char :=
  match cs with
  | '0' :: rest => (['0'], rest)
  | cs => Text.takeDigits cs

/-- A point and at least one digit, or nothing; and the rest. -/
def takeFraction (cs : List Char) : List Char × List Char :=
  match cs with
  | '.' :: rest =>
    let (digits, after) := Text.takeDigits rest
    if digits.isEmpty then ([], cs) else ('.' :: digits, after)
  | _ => ([], cs)

/-- The letter of an exponent and its digits, or nothing; and the rest. -/
def takeExponent (cs : List Char) : List Char × List Char :=
  match cs with
  | c :: rest =>
    let (digits, after) := Text.takeDigits (Text.takeSign rest).2
    if (c = 'e' || c = 'E') && !digits.isEmpty then (c :: digits, after) else ([], cs)
  | [] => ([], cs)

/-- The number that a word starts with; nothing may stand after it. A whole number must not have too
many digits, whatever stands after it. -/
def numberToken (word : List Char) : Token :=
  let (negative, magnitude) :=
    match word with
    | '-' :: rest => (true, rest)
    | rest => (false, rest)
  let (whole, rest) := takeWhole magnitude
  let (fraction, rest) := takeFraction rest
  let (exponent, rest) := takeExponent rest
  let isWhole := fraction.isEmpty && exponent.isEmpty
  if whole.isEmpty then .broken
  else if isWhole && whole.length > Text.digitLimit then .tooLong
  else if !rest.isEmpty then .broken
  else if isWhole then
    let n : Int := Text.decimalValue whole
    .scalar (.int (if negative then -n else n))
  else
    match Binary64.ofChars? word with
    | some x => .scalar (.float x)
    | none => .broken

/-- The words with a meaning of their own. -/
def namedValues : List (String × Value) :=
  [("null", .null), ("true", .bool true), ("false", .bool false), ("NaN", .float .undefined),
    ("Infinity", .float (.infinity false)), ("-Infinity", .float (.infinity true))]

/-- What a word stands for. -/
def wordToken (word : List Char) : Token :=
  match namedValues.lookup (String.ofList word) with
  | some v => .scalar v
  | none => numberToken word

/-- A character of a word. -/
def isWordChar (c : Char) : Bool := c.isAlphanum || c = '-' || c = '+' || c = '.'

/-! ### Texts -/

/-- What a character after a backslash stands for. -/
def escapeValue? (c : Char) : Option Nat :=
  match c with
  | '\x22' => some 0x22
  | '\\' => some 0x5C
  | '/' => some 0x2F
  | 'b' => some 8
  | 'f' => some 12
  | 'n' => some 10
  | 'r' => some 13
  | 't' => some 9
  | _ => none

/-- The first half of a pair. -/
def isHighHalf (n : Nat) : Bool := 0xD800 ≤ n && n < 0xDC00

/-- The second half of a pair. -/
def isLowHalf (n : Nat) : Bool := 0xDC00 ≤ n && n < 0xE000

/-- The characters of a text, with the two halves of a pair put together. -/
def joinUnits : List Nat → List Char
  | [] => []
  | [n] => [Char.ofNat n]
  | a :: b :: rest =>
    if isHighHalf a && isLowHalf b then
      Char.ofNat (0x10000 + (a - 0xD800) * 0x400 + (b - 0xDC00)) :: joinUnits rest
    else Char.ofNat a :: joinUnits (b :: rest)

/-! ### The tokens of a text -/

/-- What is being read. What has been read of it stands in reverse order. -/
inductive Reading where
  | blank
  | word (read : List Char)
  | text (read : List Nat)
  | escape (read : List Nat)
  | code (read : List Nat) (value missing : Nat)
  /-- The text has gone wrong. -/
  | nothing

/-- The tokens read so far, in reverse order, and what is being read. -/
structure Scan where
  tokens : List Token
  reading : Reading

/-- The text goes wrong here. -/
def stopped (read : List Token) : Scan := ⟨.broken :: read, .nothing⟩

/-- White space between tokens. -/
def isSpace (c : Char) : Bool := c = ' ' || c = '\t' || c = '\n' || c = '\r'

/-- The token that a punctuation mark is. -/
def punctuation? (c : Char) : Option Token :=
  match c with
  | '[' => some .openList
  | ']' => some .closeList
  | '\x7b' => some .openMap
  | '\x7d' => some .closeMap
  | ',' => some .comma
  | ':' => some .colon
  | _ => none

/-- A character between two tokens. -/
def startToken (read : List Token) (c : Char) : Scan :=
  if isSpace c then ⟨read, .blank⟩
  else if c = '\x22' then ⟨read, .text []⟩
  else if isWordChar c then ⟨read, .word [c]⟩
  else
    match punctuation? c with
    | some t => ⟨t :: read, .blank⟩
    | none => stopped read

/-- One more character. -/
def Scan.step (s : Scan) (c : Char) : Scan :=
  match s.reading with
  | .blank => startToken s.tokens c
  | .word read =>
    if isWordChar c then ⟨s.tokens, .word (c :: read)⟩
    else startToken (wordToken read.reverse :: s.tokens) c
  | .text read =>
    if c = '\x22' then ⟨.text (String.ofList (joinUnits read.reverse)) :: s.tokens, .blank⟩
    else if c = '\\' then ⟨s.tokens, .escape read⟩
    else if c.toNat < 0x20 then stopped s.tokens
    else ⟨s.tokens, .text (c.toNat :: read)⟩
  | .escape read =>
    if c = 'u' then ⟨s.tokens, .code read 0 4⟩
    else
      match escapeValue? c with
      | some n => ⟨s.tokens, .text (n :: read)⟩
      | none => stopped s.tokens
  | .code read value missing =>
    match Text.hexValue? c with
    | none => stopped s.tokens
    | some d =>
      let value := 16 * value + d
      ⟨s.tokens, if missing ≤ 1 then .text (value :: read) else .code read value (missing - 1)⟩
  | .nothing => s

/-- The tokens once the text has ended. -/
def Scan.finish (s : Scan) : List Token :=
  match s.reading with
  | .blank | .nothing => s.tokens.reverse
  | .word read => (wordToken read.reverse :: s.tokens).reverse
  | .text _ | .escape _ | .code _ _ _ => (stopped s.tokens).tokens.reverse

/-- The tokens of a text. -/
def tokens (cs : List Char) : List Token := (cs.foldl Scan.step ⟨[], .blank⟩).finish

end SubmissionRouting.Json
