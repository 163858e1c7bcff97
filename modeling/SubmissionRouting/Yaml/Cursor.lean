import SubmissionRouting.Fault

/-! # Characters and places in a text

Reading YAML depends on the place in the text: the line, and the column in it. Lines end in any of
the line breaks of Unicode; a return followed by a line feed is one break.

* `isBreak`, `isGap`: the characters that end a line, and those that end a word.
* `Cursor`: what is still to be read, and the place where it starts.
* `Scan`: a step that reads some of a text, or rejects it.
* `takeWhile`, `scanBreak`, `skipLine`: the simplest steps. -/

namespace SubmissionRouting.Yaml

/-! ### Characters -/

/-- What stands after the last character. -/
def endMark : Char := '\x00'

/-- The character that marks the order of bytes. It takes up no column. -/
def orderMark : Char := '\ufeff'

/-- A character that ends a line. -/
def isBreak (c : Char) : Bool :=
  c = '\n' || c = '\r' || c = '\x85' || c = '\u2028' || c = '\u2029'

/-- The end of a line or of the text. -/
def isLineEnd (c : Char) : Bool := isBreak c || c = endMark

/-- A space, or the end of a line or of the text. -/
def isSpaceOrEnd (c : Char) : Bool := c = ' ' || isLineEnd c

/-- What may follow an indicator: a space, a tab, or the end of a line or of the text. -/
def isGap (c : Char) : Bool := c = '\t' || isSpaceOrEnd c

/-- A character that a text may hold. -/
def isAllowed (c : Char) : Bool :=
  let n := c.toNat
  n == 0x09 || n == 0x0A || n == 0x0D || (0x20 ≤ n && n ≤ 0x7E) || n == 0x85 ||
    (0xA0 ≤ n && n ≤ 0xD7FF) || (0xE000 ≤ n && n ≤ 0xFFFD) || 0x10000 ≤ n

/-- A letter, a digit, a hyphen or a low line of the first 128 characters. -/
def isNameChar (c : Char) : Bool := c.isAlphanum || c = '-' || c = '_'

/-! ### Places -/

/-- What is still to be read, and the place where it starts. -/
structure Cursor where
  rest : List Char
  /-- The number of characters of the whole text. -/
  size : Nat
  index : Nat
  line : Nat
  column : Nat

namespace Cursor

/-- The start of a text. -/
def start (cs : List Char) : Cursor := ⟨cs, cs.length, 0, 0, 0⟩

/-- The character so many places ahead. -/
def peek (c : Cursor) (n : Nat) : Char := c.rest.getD n endMark

/-- One character ahead. -/
def next (c : Cursor) : Cursor :=
  match c.rest with
  | [] => c
  | ch :: rest =>
    let next := { c with rest := rest, index := c.index + 1 }
    if isBreak ch && !(ch = '\r' && rest.headD endMark = '\n') then
      { next with line := c.line + 1, column := 0 }
    else if ch = orderMark then next
    else { next with column := c.column + 1 }

/-- So many characters ahead. -/
def forward : Nat → Cursor → Cursor
  | 0, c => c
  | n + 1, c => forward n c.next

/-- A line that starts or ends a document comes next: three hyphens or points, and a gap. -/
def atDocumentMark (c : Cursor) : Bool :=
  let mark := c.rest.take 3
  (mark = ['-', '-', '-'] || mark = ['.', '.', '.']) && isGap (c.peek 3)

end Cursor

/-! ### Steps -/

/-- A step that reads some of a text, or rejects it. -/
abbrev Scan := StateT Cursor Result

/-- The text is not well formed. -/
def reject {α : Type} : Scan α := throw (.payload .invalidYaml)

/-- The next character. -/
def look : Scan Char := do pure ((← get).peek 0)

/-- The character so many places ahead. -/
def lookAt (n : Nat) : Scan Char := do pure ((← get).peek n)

/-- Passes over so many characters. -/
def skip (n : Nat) : Scan Unit := modify (Cursor.forward n)

/-- Reads all characters of a kind. -/
def takeWhile (p : Char → Bool) : Scan (List Char) := do
  let cs := (← get).rest.takeWhile p
  skip cs.length
  pure cs

/-- Passes over spaces. -/
def skipSpaces : Scan Unit := do
  let _ ← takeWhile fun c => c = ' '

/-- Reads a line break, if there is one. All breaks but two count as a line feed. -/
def scanBreak : Scan (List Char) := do
  let c ← look
  if c = '\r' && (← lookAt 1) = '\n' then
    skip 2
    pure ['\n']
  else if c = '\u2028' || c = '\u2029' then
    skip 1
    pure [c]
  else if isBreak c then
    skip 1
    pure ['\n']
  else pure []

/-- Passes over the comment that starts here, if one does. -/
def skipComment : Scan Unit := do
  if (← look) = '#' then
    let _ ← takeWhile fun c => !isLineEnd c

/-- Passes over the rest of a line, which holds at most a comment. -/
def skipLine : Scan Unit := do
  skipSpaces
  skipComment
  if !isLineEnd (← look) then reject
  let _ ← scanBreak

/-- The number of characters that are left, and one more. -/
def remaining : Scan Nat := do
  let c ← get
  pure (c.size - c.index + 1)

end SubmissionRouting.Yaml
