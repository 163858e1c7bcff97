import SubmissionRouting.Text.Hexadecimal
import SubmissionRouting.Yaml.Cursor

/-! # The text of a scalar

A scalar stands in quotes, or as it is, or as a block of lines. A single line break inside a scalar
counts as a space, and of several in a row the first does not count; this is called folding. A block
after a bar is not folded.

* `scanQuoted`: a scalar in single or in double quotes.
* `scanPlain`: a scalar as it is.
* `scanBlock`: a block of lines. -/

namespace SubmissionRouting.Yaml

/-- Line breaks in a row, folded: a space for a single one, else all but the first. -/
def folded (first : List Char) (others : List Char) : List Char :=
  if first ≠ ['\n'] then first ++ others
  else if others.isEmpty then [' ']
  else others

/-! ### Quoted scalars -/

/-- What a character after a backslash stands for. -/
def escapeValue? (c : Char) : Option Char :=
  match c with
  | '0' => some '\x00'
  | 'a' => some '\x07'
  | 'b' => some '\x08'
  | 't' => some '\t'
  | '\t' => some '\t'
  | 'n' => some '\n'
  | 'v' => some '\x0b'
  | 'f' => some '\x0c'
  | 'r' => some '\r'
  | 'e' => some '\x1b'
  | ' ' => some ' '
  | '\x22' => some '\x22'
  | '\\' => some '\\'
  | '/' => some '/'
  | 'N' => some '\x85'
  | '_' => some '\xa0'
  | 'L' => some '\u2028'
  | 'P' => some '\u2029'
  | _ => none

/-- The number of digits of a code after a letter. -/
def codeLength? (c : Char) : Option Nat :=
  match c with
  | 'x' => some 2
  | 'u' => some 4
  | 'U' => some 8
  | _ => none

/-- The character with a code. -/
def charOfCode (code : Nat) : Result Char :=
  if code ≤ 0x10FFFF then .ok (Char.ofNat code)
  else if code ≤ 0x7FFFFFFF then .error (.misuse .badNumber)
  else .error (.misuse .numberTooLarge)

/-- Reads line breaks and the blanks at the starts of lines. -/
def scanQuotedBreaks : Nat → Scan (List Char)
  | 0 => reject
  | fuel + 1 => do
    if (← get).atDocumentMark then reject
    let _ ← takeWhile fun c => c = ' ' || c = '\t'
    if isBreak (← look) then
      let first ← scanBreak
      let others ← scanQuotedBreaks fuel
      pure (first ++ others)
    else pure []

/-- Reads what follows a backslash. -/
def scanEscape : Scan (List Char) := do
  let c ← look
  match escapeValue? c, codeLength? c with
  | some value, _ =>
    skip 1
    pure [value]
  | none, some count =>
    skip 1
    let digits := (← get).rest.take count
    match Text.hexNumber? digits with
    | some code =>
      if digits.length < count then reject
      else
        let value ← charOfCode code
        skip count
        pure [value]
    | none => reject
  | none, none =>
    if isBreak c then
      let _ ← scanBreak
      scanQuotedBreaks (← remaining)
    else reject

/-- A character of a quoted scalar that means only itself. -/
def isOrdinary (c : Char) : Bool := !(isGap c || c = '\x27' || c = '\x22' || c = '\\')

/-- Reads the characters of a quoted scalar up to a blank or the quote at its end. -/
def scanQuotedWord (double : Bool) : Nat → Scan (List Char)
  | 0 => reject
  | fuel + 1 => do
    let run ← takeWhile isOrdinary
    let c ← look
    if !double && c = '\x27' && (← lookAt 1) = '\x27' then
      skip 2
      let others ← scanQuotedWord double fuel
      pure (run ++ c :: others)
    else if (double && c = '\x27') || (!double && (c = '\x22' || c = '\\')) then
      skip 1
      let others ← scanQuotedWord double fuel
      pure (run ++ c :: others)
    else if double && c = '\\' then
      skip 1
      let value ← scanEscape
      let others ← scanQuotedWord double fuel
      pure (run ++ value ++ others)
    else pure run

/-- Reads the blanks of a quoted scalar, with the line breaks in them. -/
def scanQuotedBlanks : Scan (List Char) := do
  let blanks ← takeWhile fun c => c = ' ' || c = '\t'
  let c ← look
  if c = endMark then reject
  else if isBreak c then
    let first ← scanBreak
    let others ← scanQuotedBreaks (← remaining)
    pure (folded first others)
  else pure blanks

/-- Reads words and blanks up to the quote. -/
def scanQuotedRest (quote : Char) : Nat → Scan (List Char)
  | 0 => reject
  | fuel + 1 => do
    if (← look) = quote then
      skip 1
      pure []
    else
      let blanks ← scanQuotedBlanks
      let word ← scanQuotedWord (quote = '\x22') (← remaining)
      let others ← scanQuotedRest quote fuel
      pure (blanks ++ word ++ others)

/-- Reads a scalar in quotes. -/
def scanQuoted : Scan String := do
  let quote ← look
  skip 1
  let word ← scanQuotedWord (quote = '\x22') (← remaining)
  let others ← scanQuotedRest quote (← remaining)
  pure (String.ofList (word ++ others))

/-! ### Plain scalars -/

/-- A character that has a meaning inside brackets. -/
def isFlowMark (c : Char) : Bool := c = ',' || c = '[' || c = ']' || c = '\x7b' || c = '\x7d'

/-- A plain scalar ends before this character, given the one after it. -/
def endsPlain (inFlow : Bool) (c after : Char) : Bool :=
  isGap c || (c = ':' && (isGap after || (inFlow && isFlowMark after))) ||
    (inFlow && (c = '?' || isFlowMark c))

/-- The characters of a plain scalar up to a blank. -/
def plainRun (inFlow : Bool) : List Char → List Char
  | [] => []
  | c :: cs => if endsPlain inFlow c (cs.headD endMark) then [] else c :: plainRun inFlow cs

/-- Reads line breaks and the spaces at the starts of lines; nothing if a document ends here. -/
def scanPlainBreaks : Nat → Scan (Option (List Char))
  | 0 => reject
  | fuel + 1 => do
    if (← get).atDocumentMark then pure none
    else
      skipSpaces
      if isBreak (← look) then
        let first ← scanBreak
        let others ← scanPlainBreaks fuel
        pure (others.map (first ++ ·))
      else pure (some [])

/-- Reads the spaces after a part of a plain scalar, with the line breaks in them; also tells
whether there were any line breaks. -/
def scanPlainBlanks : Scan (List Char × Bool) := do
  let spaces ← takeWhile fun c => c = ' '
  if isBreak (← look) then
    let first ← scanBreak
    match ← scanPlainBreaks (← remaining) with
    | none => pure ([], true)
    | some others => pure (folded first others, true)
  else pure (spaces, false)

/-- Reads the parts of a plain scalar, given the blanks before the next part. -/
def scanPlainParts (inFlow : Bool) (indent : Int) (blanks : List Char) (broken : Bool) :
    Nat → Scan (List Char × Bool)
  | 0 => reject
  | fuel + 1 => do
    let run := plainRun inFlow (← get).rest
    if (← look) = '#' || run.isEmpty then pure ([], broken)
    else
      skip run.length
      let (next, broken) ← scanPlainBlanks
      let outside := !inFlow && ((← get).column : Int) < indent
      if next.isEmpty || (← look) = '#' || outside then pure (blanks ++ run, broken)
      else
        let (others, broken) ← scanPlainParts inFlow indent next broken fuel
        pure (blanks ++ run ++ others, broken)

/-- Reads a plain scalar, given the least column of its later lines; also tells whether a line ends
after it. -/
def scanPlain (inFlow : Bool) (indent : Int) : Scan (String × Bool) := do
  let (cs, broken) ← scanPlainParts inFlow indent [] false (← remaining)
  pure (String.ofList cs, broken)

/-! ### Blocks -/

/-- What becomes of the line breaks at the end of a block. -/
inductive Chomping where
  /-- One stays. -/
  | clip
  /-- None stays. -/
  | strip
  /-- All stay. -/
  | keep
deriving DecidableEq

/-- The digit of a block's header, which is not zero. -/
def scanIncrement : Scan (Option Nat) := do
  let c ← look
  if !c.isDigit then pure none
  else if c = '0' then reject
  else
    skip 1
    pure (some (c.toNat - 0x30))

/-- The sign of a block's header. -/
def scanChomping : Scan Chomping := do
  let c ← look
  if c = '+' then
    skip 1
    pure .keep
  else if c = '-' then
    skip 1
    pure .strip
  else pure .clip

/-- The header of a block: a sign and a digit in either order, and at most a comment. -/
def scanBlockHeader : Scan (Chomping × Option Nat) := do
  skip 1
  let first ← scanChomping
  let increment ← scanIncrement
  let chomping ← if first = .clip then scanChomping else pure first
  if !isSpaceOrEnd (← look) then reject
  skipLine
  pure (chomping, increment)

/-- Reads the empty lines before a block; also tells the greatest column reached by spaces. -/
def scanBlockMargin (widest : Nat) : Nat → Scan (List Char × Nat)
  | 0 => reject
  | fuel + 1 => do
    let c ← look
    if c = ' ' then
      skip 1
      scanBlockMargin (max widest (← get).column) fuel
    else if isBreak c then
      let first ← scanBreak
      let (others, widest) ← scanBlockMargin widest fuel
      pure (first ++ others, widest)
    else pure ([], widest)

/-- Passes over spaces up to a column. -/
def skipIndent (indent : Nat) : Nat → Scan Unit
  | 0 => pure ()
  | fuel + 1 => do
    if (← get).column < indent && (← look) = ' ' then
      skip 1
      skipIndent indent fuel

/-- Reads empty lines of a block and the indentation of the next line. -/
def scanBlockBreaks (indent : Nat) : Nat → Scan (List Char)
  | 0 => reject
  | fuel + 1 => do
    skipIndent indent (← remaining)
    if isBreak (← look) then
      let first ← scanBreak
      let others ← scanBlockBreaks indent fuel
      pure (first ++ others)
    else pure []

/-- What stands between two lines of a block. -/
def blockJoint (fold : Bool) (lineBreak breaks : List Char) (wide nextWide : Bool) : List Char :=
  if fold && lineBreak = ['\n'] && !wide && !nextWide then
    (if breaks.isEmpty then [' '] else []) ++ breaks
  else lineBreak ++ breaks

/-- The line breaks that stay at the end of a block. -/
def blockEnd (chomping : Chomping) (lineBreak breaks : List Char) : List Char :=
  match chomping with
  | .strip => []
  | .clip => lineBreak
  | .keep => lineBreak ++ breaks

/-- A character that makes a line of a block wide, so that it is not folded. -/
def isWide (c : Char) : Bool := c = ' ' || c = '\t'

/-- Reads the lines of a block, the next of which is at its indentation. -/
def scanBlockLines (fold : Bool) (chomping : Chomping) (indent : Nat) : Nat → Scan (List Char)
  | 0 => reject
  | fuel + 1 => do
    let wide := isWide (← look)
    let line ← takeWhile fun c => !isLineEnd c
    let lineBreak ← scanBreak
    let breaks ← scanBlockBreaks indent (← remaining)
    if (← get).column = indent && (← look) ≠ endMark then
      let joint := blockJoint fold lineBreak breaks wide (isWide (← look))
      let others ← scanBlockLines fold chomping indent fuel
      pure (line ++ joint ++ others)
    else pure (line ++ blockEnd chomping lineBreak breaks)

/-- Reads a block after a bar or a greater-than sign, given the least column of its lines. -/
def scanBlock (minimal : Nat) : Scan String := do
  let fold := (← look) = '>'
  let (chomping, increment) ← scanBlockHeader
  let (breaks, indent) ←
    match increment with
    | none => do
      let (breaks, widest) ← scanBlockMargin 0 (← remaining)
      pure (breaks, max minimal widest)
    | some n => do
      let indent := minimal + n - 1
      let breaks ← scanBlockBreaks indent (← remaining)
      pure (breaks, indent)
  if (← get).column = indent && (← look) ≠ endMark then
    let lines ← scanBlockLines fold chomping indent (← remaining)
    pure (String.ofList (breaks ++ lines))
  else pure (String.ofList (if chomping = .keep then breaks else []))

end SubmissionRouting.Yaml
