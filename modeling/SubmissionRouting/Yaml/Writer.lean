import SubmissionRouting.Number.Shortest
import SubmissionRouting.Text.Hexadecimal
import SubmissionRouting.Value.Literal
import SubmissionRouting.Yaml.Cursor
import SubmissionRouting.Yaml.Plain

/-! # Writing YAML

A value in YAML, in characters of seven bits only. Lists and mappings are written line by line; the
items of a list under a key are not indented further than the key. A text stands as it is if it then
reads as a text again, else in single quotes, or in double quotes if it holds characters that have
to be escaped. Texts are folded at a space once a line has more than 80 characters. A key that is
empty, long, or of more than one line stands after a question mark. Values that contain themselves
are not written, nor those with a whole number that has too many digits.

* `Style`, `styleOf`: how a scalar is set.
* `Page`: what is written, and what the end of it looks like.
* `Page.value`: writes a value.
* `write`: a value in YAML. -/

namespace SubmissionRouting.Yaml

/-! ### Scalars -/

/-- How a scalar is set. -/
inductive Style where
  | plain
  | single
  | double
deriving DecidableEq

/-- Numbers are set so that they read as numbers again. -/
def numberLayout : SubmissionRouting.Layout := ⟨".nan", ".inf", true⟩

/-- The text of a scalar, and its kind. -/
def scalarText : Value → String × Kind
  | .null => ("null", .null)
  | .bool b => (if b then "true" else "false", .bool)
  | .int n => (decimalText n, .int)
  | .float x => (x.text numberLayout, .float)
  | .date d => (d.text, .stamp)
  | .moment m => (m.text, .stamp)
  | .text s => (s, .text)
  | _ => ("", .text)

/-- A character that is always escaped. -/
def isSpecial (c : Char) : Bool := !(c = '\n' || (' ' ≤ c && c ≤ '~'))

/-- Two neighbours of which one is a space and the other a line break. -/
def hasSpaceAtBreak : List Char → Bool
  | c :: d :: cs =>
    (c = ' ' && d = '\n') || (c = '\n' && d = ' ') || hasSpaceAtBreak (d :: cs)
  | _ => false

/-- The first character, or the first two, would read as an indicator. -/
def startsAsIndicator (cs : List Char) : Bool :=
  match cs with
  | [] => false
  | c :: more =>
    let alone := isGap (more.headD endMark)
    "#,[]\x7b\x7d&*!|>\x27\x22%@\x60".toList.contains c ||
      ((c = '?' || c = ':' || c = '-') && alone)

/-- A later character would end the scalar: a colon before a gap, or a hash sign after one. -/
def hasIndicator : List Char → Bool
  | c :: d :: cs =>
    (d = ':' && isGap (cs.headD endMark)) || (d = '#' && isGap c) || hasIndicator (d :: cs)
  | _ => false

/-- The text reads as the start or the end of a document. -/
def startsAsMark (cs : List Char) : Bool :=
  let mark := cs.take 3
  mark = ['-', '-', '-'] || mark = ['.', '.', '.']

/-- A space or a line break. -/
def isBlankOrBreak (c : Char) : Bool := c = ' ' || c = '\n'

/-- The text can stand as it is. -/
def fitsPlain (cs : List Char) : Bool :=
  !(cs.any isSpecial || cs.contains '\n' || isBlankOrBreak (cs.headD endMark) ||
    isBlankOrBreak (cs.getLastD endMark) || startsAsMark cs || startsAsIndicator cs ||
    hasIndicator cs)

/-- The text can stand in single quotes. -/
def fitsSingle (cs : List Char) : Bool := !(cs.any isSpecial || hasSpaceAtBreak cs)

/-- How a scalar is set. -/
def styleOf (isKey : Bool) (s : String) (kind : Kind) : Style :=
  let cs := s.toList
  let multiline := cs.contains '\n'
  if plainKind s = kind && !(isKey && (cs.isEmpty || multiline)) && fitsPlain cs then .plain
  else if fitsSingle cs && !(isKey && multiline) then .single
  else .double

/-! ### The page -/

/-- What is written, in reverse order, and what the end of it looks like. -/
structure Page where
  written : List Char
  column : Nat
  /-- It ends in a space, or in nothing that needs one. -/
  spaced : Bool
  /-- The last line holds nothing but indentation. -/
  blank : Bool

namespace Page

/-- Nothing is written. -/
def start : Page := ⟨[], 0, true, true⟩

/-- The greatest number of characters of a line that is not folded. -/
def width : Nat := 80

/-- Writes characters on the line. -/
def put (p : Page) (cs : List Char) : Page :=
  { p with written := cs.reverse ++ p.written, column := p.column + cs.length }

/-- Ends the line. -/
def newLine (p : Page) : Page := ⟨'\n' :: p.written, 0, true, true⟩

/-- Writes spaces up to a column, on a new line if the line is in use. -/
def indentTo (p : Page) (column : Nat) : Page :=
  let p :=
    if !p.blank || p.column > column || (p.column = column && !p.spaced) then p.newLine else p
  if p.column < column then
    { p.put (List.replicate (column - p.column) ' ') with spaced := true }
  else p

/-- The page does not end in a space. -/
def inUse (p : Page) : Page := { p with spaced := false, blank := false }

/-- Writes an indicator, after a space if it needs one. -/
def mark (p : Page) (s : String) (needsSpace : Bool) : Page :=
  (p.put (if p.spaced || !needsSpace then s.toList else ' ' :: s.toList)).inUse

/-- Writes an indicator after which a line of its own may start. -/
def openMark (p : Page) (s : String) : Page := { p.mark s true with blank := p.blank }

/-! #### Texts -/

/-- Parts of a text: words, spaces and line breaks by themselves. -/
def parts (cs : List Char) : List (List Char) :=
  cs.splitBy fun c d => (c = ' ') = (d = ' ') ∧ (c = '\n') = (d = '\n')

/-- Writes a text as it is; a single space may become a line break. -/
def plainParts (indent : Nat) (fold : Bool) (p : Page) : List (List Char) → Page
  | [] => p
  | part :: more =>
    let p := if part = [' '] && fold && p.column > width then (p.indentTo indent).inUse else p.put part
    plainParts indent fold p more

/-- Writes a text as it is. -/
def plainText (p : Page) (indent : Nat) (fold : Bool) (cs : List Char) : Page :=
  let p := if p.spaced then p else p.put [' ']
  plainParts indent fold p.inUse (parts cs)

/-- A part of a text in single quotes, in which a quote is written twice. -/
def doubledQuotes (cs : List Char) : List Char :=
  cs.flatMap fun c => if c = '\x27' then [c, c] else [c]

/-- Writes so many line breaks. -/
def newLines : Nat → Page → Page
  | 0, p => p
  | n + 1, p => newLines n p.newLine

/-- Writes the parts of a text in single quotes; a single space between two words may become a line
break, and line breaks are written once more than there are. -/
def singleParts (indent : Nat) (fold first : Bool) (p : Page) : List (List Char) → Page
  | [] => p
  | part :: more =>
    let p :=
      if part.head? = some '\n' then (newLines (part.length + 1) p).indentTo indent
      else if part = [' '] && fold && p.column > width && !first && !more.isEmpty then
        p.indentTo indent
      else p.put (doubledQuotes part)
    singleParts indent fold false p more

/-- Writes a text in single quotes. -/
def singleText (p : Page) (indent : Nat) (fold : Bool) (cs : List Char) : Page :=
  (singleParts indent fold true (p.mark "'" true) (parts cs)).mark "'" false

/-- The letter after a backslash that stands for a character. -/
def escapeLetter? (c : Char) : Option Char :=
  match c with
  | '\x00' => some '0'
  | '\x07' => some 'a'
  | '\x08' => some 'b'
  | '\t' => some 't'
  | '\n' => some 'n'
  | '\x0b' => some 'v'
  | '\x0c' => some 'f'
  | '\r' => some 'r'
  | '\x1b' => some 'e'
  | '\x22' => some '\x22'
  | '\\' => some '\\'
  | '\x85' => some 'N'
  | '\xa0' => some '_'
  | '\u2028' => some 'L'
  | '\u2029' => some 'P'
  | _ => none

/-- A character in double quotes, if it is escaped. -/
def escaped? (c : Char) : Option (List Char) :=
  if c ≠ '\x22' ∧ c ≠ '\\' ∧ ' ' ≤ c ∧ c ≤ '~' then none
  else
    match escapeLetter? c with
    | some letter => some ['\\', letter]
    | none =>
      let n := c.toNat
      some (if n ≤ 0xFF then '\\' :: 'x' :: Text.capitalHexDigits 2 n
        else if n ≤ 0xFFFF then '\\' :: 'u' :: Text.capitalHexDigits 4 n
        else '\\' :: 'U' :: Text.capitalHexDigits 8 n)

/-- Breaks the line of a text in double quotes after what is pending. A space at the start of the
next line is escaped. -/
def breakDouble (p : Page) (indent : Nat) (pending : List Char) (next : Char) : Page :=
  let p := ((p.put (pending ++ ['\\'])).indentTo indent).inUse
  if next = ' ' then p.put ['\\'] else p

/-- Writes the characters of a text in double quotes. Those that are pending, in reverse order, are
not written yet. -/
def doubleChars (indent : Nat) (fold : Bool) (length : Nat) (index : Nat) (pending : List Char)
    (p : Page) : List Char → Page
  | [] => p.put pending.reverse
  | c :: cs =>
    let inside := fold && 0 < index && index + 1 < length
    match escaped? c with
    | some code =>
      let p := p.put (pending.reverse ++ code)
      let p :=
        if inside && p.column > width + 1 then p.breakDouble indent [] (cs.headD endMark) else p
      doubleChars indent fold length (index + 1) [] p cs
    | none =>
      if inside && (c = ' ' || pending.isEmpty) && p.column + pending.length > width then
        doubleChars indent fold length (index + 1) [c] (p.breakDouble indent pending.reverse c) cs
      else doubleChars indent fold length (index + 1) (c :: pending) p cs

/-- Writes a text in double quotes. -/
def doubleText (p : Page) (indent : Nat) (fold : Bool) (cs : List Char) : Page :=
  (doubleChars indent fold cs.length 0 [] (p.mark "\x22" true) cs).mark "\x22" false

/-! #### Values -/

/-- The column of what stands inside a list or mapping, or inside the document. -/
def inner : Option Nat → Nat
  | none => 0
  | some n => n + 2

/-- Writes a scalar. -/
def scalar (p : Page) (indent : Option Nat) (isKey : Bool) (v : Value) : Page :=
  let (s, kind) := scalarText v
  let column := (indent.getD 0) + 2
  match styleOf isKey s kind with
  | .plain => p.plainText column (!isKey) s.toList
  | .single => p.singleText column (!isKey) s.toList
  | .double => p.doubleText column (!isKey) s.toList

/-- The length of the written form of a kind's tag. -/
def tagLength (k : Kind) : Nat := (k.tag.length - standardPrefix.length) + 2

/-- A character that ends a line in any of the scripts. -/
def isKeyBreak (c : Char) : Bool := c = '\n' || c = '\x85' || c = '\u2028' || c = '\u2029'

/-- A key that stands before its colon on one line. -/
def isSimpleKey (k : Value) : Bool :=
  match k with
  | .list vs => vs.isEmpty
  | .tuple vs => vs.isEmpty
  | .set vs => vs.isEmpty
  | .map es => es.isEmpty
  | k =>
    let (s, kind) := scalarText k
    !s.isEmpty && !s.toList.any isKeyBreak && tagLength kind + s.length < 128

/-- Writes a pair of brackets with nothing between them. -/
def emptyBrackets (p : Page) (left right : String) : Page :=
  { p.mark left true with spaced := true }.mark right false

/-- Writes what stands before a key. -/
def startKey (p : Page) (column : Nat) (k : Value) : Page :=
  let p := p.indentTo column
  if isSimpleKey k then p else p.openMark "?"

/-- Writes what stands between a key and its value. -/
def endKey (p : Page) (column : Nat) (k : Value) : Page :=
  if isSimpleKey k then p.mark ":" false else (p.indentTo column).openMark ":"

mutual

/-- Writes a value that stands in a list, in a mapping or in the document, at its column. -/
def value (indent : Option Nat) (inMap isKey : Bool) : Value → Page → Page
  | .list vs, p =>
    if vs.isEmpty then p.emptyBrackets "[" "]"
    else items (if inMap && !p.blank then indent.getD 0 else inner indent) vs p
  | .tuple vs, p =>
    if vs.isEmpty then p.emptyBrackets "[" "]"
    else items (if inMap && !p.blank then indent.getD 0 else inner indent) vs p
  | .set vs, p =>
    let p := p.mark "!!set" true
    if vs.isEmpty then p.emptyBrackets "\x7b" "\x7d" else members (inner indent) vs p
  | .map es, p =>
    if es.isEmpty then p.emptyBrackets "\x7b" "\x7d" else entries (inner indent) es p
  | v, p => p.scalar indent isKey v
termination_by structural v => v

/-- Writes the items of a list. -/
def items (column : Nat) : List Value → Page → Page
  | [], p => p
  | v :: vs, p => items column vs (value (some column) false false v ((p.indentTo column).openMark "-"))
termination_by structural vs => vs

/-- Writes the members of a set, each with no value. -/
def members (column : Nat) : List Value → Page → Page
  | [], p => p
  | v :: vs, p => members column vs
      (((value (some column) true (isSimpleKey v) v (p.startKey column v)).endKey column v).scalar
        (some column) false .null)
termination_by structural vs => vs

/-- Writes the entries of a mapping. -/
def entries (column : Nat) : List (Value × Value) → Page → Page
  | [], p => p
  | (k, v) :: es, p => entries column es
      (value (some column) true false v
        ((value (some column) true (isSimpleKey k) k (p.startKey column k)).endKey column k))
termination_by structural es => es

end

end Page

/-- A value in YAML, if it ends and all of its numbers have a text. -/
def write (v : Value) : Except Misuse String :=
  if v.strandCount = 0 then do
    let _ ← v.literal
    pure (String.ofList ((Page.value none false false v Page.start).indentTo 0).written.reverse)
  else .error .endless

end SubmissionRouting.Yaml
