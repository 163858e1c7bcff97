import SubmissionRouting.Yaml.Scalar

/-! # YAML tokens

A text is cut into tokens. Besides those that stand in the text there are tokens that come from its
layout: a list or a mapping starts where a line is indented further than the lines before, and ends
where a line is indented less. A *simple key* is only known as a key by the colon after it, so its
place in the list of tokens is remembered until the colon comes, which must be on the same line and
at most 1024 characters away.

A text that cannot be read to its end still has the tokens before that place. They count, since a
fault in what they say comes before the fault that ends them.

* `Token`: the tokens.
* `Layout`: what is known at a place of the text.
* `Layout.fetch`: reads the next token.
* `TokenStream`: the tokens up to where a text ends or cannot be read.
* `tokens`: the tokens of a text. -/

namespace SubmissionRouting.Yaml

/-- A token. -/
inductive Token where
  | version (major : Nat)
  | tagHandle (handle name : String)
  | otherDirective
  | documentStart
  | documentEnd
  | streamEnd
  | blockListStart
  | blockMapStart
  | blockEnd
  | flowListStart
  | flowListEnd
  | flowMapStart
  | flowMapEnd
  | blockEntry
  | flowEntry
  | key
  | value
  | alias (name : String)
  | anchor (name : String)
  | tag (handle : Option String) (name : String)
  | scalar (text : String) (plain : Bool)
deriving DecidableEq

/-- The tokens of a text up to where it cannot be read any further. -/
structure TokenStream where
  tokens : List Token
  /-- Why the tokens end, unless the text does. -/
  ending : Option Fault

/-! ### Names, tags and directives -/

/-- Reads a name, which must not be empty. -/
def scanName : Scan String := do
  let cs ← takeWhile isNameChar
  if cs.isEmpty then reject
  pure (String.ofList cs)

/-- What may follow the name of an anchor. -/
def mayFollowAnchor (c : Char) : Bool :=
  isGap c || c = '?' || c = ':' || c = ',' || c = ']' || c = '\x7d' || c = '%' || c = '@' || c = '\x60'

/-- Reads the name of an anchor after its indicator. -/
def scanAnchor : Scan String := do
  skip 1
  let name ← scanName
  if !mayFollowAnchor (← look) then reject
  pure name

/-- A character that stands for itself in the name of a tag. -/
def isTagChar (c : Char) : Bool :=
  c.isAlphanum || "-;/?:@&=+$,_.!~*\x27()[]".toList.contains c

/-- Reads the bytes that are written as a percent sign and two digits. -/
def scanEscapedBytes : Nat → Scan (List UInt8)
  | 0 => reject
  | fuel + 1 => do
    if (← look) = '%' then
      skip 1
      let digits := (← get).rest.take 2
      match Text.hexNumber? digits with
      | some n =>
        if digits.length < 2 then reject
        else
          skip 2
          let others ← scanEscapedBytes fuel
          pure (n.toUInt8 :: others)
      | none => reject
    else pure []

/-- Reads the characters of the name of a tag. -/
def scanTagChars : Nat → Scan (List Char)
  | 0 => reject
  | fuel + 1 => do
    let run ← takeWhile isTagChar
    if (← look) = '%' then
      let bytes ← scanEscapedBytes (← remaining)
      match String.fromUTF8? ⟨bytes.toArray⟩ with
      | none => reject
      | some s =>
        let others ← scanTagChars fuel
        pure (run ++ s.toList ++ others)
    else pure run

/-- Reads the name of a tag, which must not be empty. -/
def scanTagName : Scan String := do
  let started := isTagChar (← look) || (← look) = '%'
  let cs ← scanTagChars (← remaining)
  if !started then reject
  pure (String.ofList cs)

/-- Reads the handle of a tag: an exclamation mark, or a name between two of them. -/
def scanTagHandle : Scan String := do
  if (← look) ≠ '!' then reject
  skip 1
  if (← look) = ' ' then pure "!"
  else
    let name ← takeWhile isNameChar
    if (← look) ≠ '!' then reject
    skip 1
    pure (String.ofList ('!' :: name ++ ['!']))

/-- A second exclamation mark comes before the next blank. -/
def hasHandle (cs : List Char) : Bool :=
  (cs.drop 1).takeWhile (fun c => !isSpaceOrEnd c) |>.contains '!'

/-- Reads a tag. -/
def scanTag : Scan Token := do
  let after ← lookAt 1
  let t ←
    if after = '<' then do
      skip 2
      let name ← scanTagName
      if (← look) ≠ '>' then reject
      skip 1
      pure (Token.tag none name)
    else if isGap after then do
      skip 1
      pure (Token.tag none "!")
    else if hasHandle (← get).rest then do
      let handle ← scanTagHandle
      let name ← scanTagName
      pure (Token.tag (some handle) name)
    else do
      skip 1
      let name ← scanTagName
      pure (Token.tag (some "!") name)
  if !isSpaceOrEnd (← look) then reject
  pure t

/-- Reads a number of the version. -/
def scanVersionNumber : Scan Nat := do
  let digits ← takeWhile Char.isDigit
  if digits.isEmpty then reject
  if digits.length > Text.digitLimit then throw (.misuse .tooManyDigits)
  pure (digits.foldl (fun n c => 10 * n + (c.toNat - 0x30)) 0)

/-- Reads a directive. -/
def scanDirective : Scan Token := do
  skip 1
  let name ← scanName
  if !isSpaceOrEnd (← look) then reject
  let t ←
    if name = "YAML" then do
      skipSpaces
      let major ← scanVersionNumber
      if (← look) ≠ '.' then reject
      skip 1
      let _ ← scanVersionNumber
      if !isSpaceOrEnd (← look) then reject
      pure (Token.version major)
    else if name = "TAG" then do
      skipSpaces
      let handle ← scanTagHandle
      if (← look) ≠ ' ' then reject
      skipSpaces
      let name ← scanTagName
      if !isSpaceOrEnd (← look) then reject
      pure (Token.tagHandle handle name)
    else do
      let _ ← takeWhile fun c => !isLineEnd c
      pure Token.otherDirective
  skipLine
  pure t

/-! ### Layout -/

/-- A place at which a key may have started. -/
structure SimpleKey where
  /-- The number of tokens before it. -/
  place : Nat
  /-- The line makes sense only if it is a key. -/
  required : Bool
  index : Nat
  line : Nat
  column : Nat

/-- What is known at a place of the text. -/
structure Layout where
  cursor : Cursor
  /-- The tokens read so far, in reverse order. -/
  read : List Token
  /-- The number of tokens read so far. -/
  count : Nat
  /-- The number of brackets that are open. -/
  depth : Nat
  /-- The column of the innermost list or mapping outside of brackets. -/
  indent : Int
  /-- The columns around it. -/
  outer : List Int
  /-- A key may start here. -/
  keyAllowed : Bool
  /-- The places at which a key may have started, by the number of open brackets. -/
  keys : List (Nat × SimpleKey)
  finished : Bool

namespace Layout

/-- The start of a text. -/
def start (cs : List Char) : Layout := ⟨Cursor.start cs, [], 0, 0, -1, [], true, [], false⟩

/-- The text is not well formed. -/
def invalid {α : Type} : Result α := .error (.payload .invalidYaml)

/-- Runs a step of reading. -/
def scan {α : Type} (l : Layout) (step : Scan α) : Result (α × Layout) := do
  let (a, cursor) ← step.run l.cursor
  pure (a, { l with cursor := cursor })

/-- One more token. -/
def push (l : Layout) (t : Token) : Layout := { l with read := t :: l.read, count := l.count + 1 }

/-- One more token, whose text has a fixed length. -/
def pushOver (l : Layout) (t : Token) (length : Nat) : Layout :=
  { l.push t with cursor := l.cursor.forward length }

/-- A token before the last so many ones. -/
def insertBefore (l : Layout) (count : Nat) (t : Token) : Layout :=
  { l with read := l.read.take count ++ t :: l.read.drop count, count := l.count + 1 }

/-- The column of the next character. -/
def column (l : Layout) : Int := l.cursor.column

/-- The next character stands inside brackets. -/
def inFlow (l : Layout) : Bool := l.depth > 0

/-! #### Simple keys -/

/-- A key that started at a place can no longer be completed here. -/
def isStale (l : Layout) (k : SimpleKey) : Bool :=
  k.line ≠ l.cursor.line || l.cursor.index - k.index > 1024

/-- Forgets the keys that can no longer be completed. -/
def dropStaleKeys (l : Layout) : Result Layout :=
  if l.keys.any fun e => l.isStale e.2 && e.2.required then invalid
  else pure { l with keys := l.keys.filter fun e => !l.isStale e.2 }

/-- The key that may have started at this number of open brackets. -/
def currentKey? (l : Layout) : Option SimpleKey := l.keys.lookup l.depth

/-- Forgets the key that may have started at this number of open brackets. -/
def forgetKey (l : Layout) : Layout := { l with keys := l.keys.filter fun e => e.1 ≠ l.depth }

/-- Gives up the key that may have started at this number of open brackets. -/
def giveUpKey (l : Layout) : Result Layout :=
  match l.currentKey? with
  | some k => if k.required then invalid else pure l.forgetKey
  | none => pure l

/-- Remembers that a key may start here. -/
def rememberKey (l : Layout) : Result Layout :=
  if l.keyAllowed then do
    let l ← l.giveUpKey
    let k : SimpleKey :=
      ⟨l.count, !l.inFlow && l.indent = l.column, l.cursor.index, l.cursor.line,
        l.cursor.column⟩
    pure { l with keys := (l.depth, k) :: l.keys }
  else pure l

/-! #### Indentation -/

/-- The columns left after all those beyond a column are left, with the number of those. -/
def leave (column indent : Int) : List Int → Int × List Int × Nat
  | [] => (indent, [], 0)
  | next :: outer =>
    if column < indent then
      let (indent, outer, count) := leave column next outer
      (indent, outer, count + 1)
    else (indent, next :: outer, 0)

/-- Ends the lists and mappings that are indented further than a column. -/
def unwind (l : Layout) (column : Int) : Layout :=
  if l.inFlow then l
  else
    let (indent, outer, ended) := leave column l.indent l.outer
    { l with
      indent := indent
      outer := outer
      read := List.replicate ended Token.blockEnd ++ l.read
      count := l.count + ended }

/-- A list or mapping starts at a column, unless one has already. -/
def indentTo (l : Layout) (column : Int) : Option Layout :=
  if l.indent < column then some { l with indent := column, outer := l.indent :: l.outer } else none

/-! #### The tokens one by one -/

/-- Passes over blanks, comments and line breaks. -/
def skipGap (inFlow : Bool) : Nat → Scan Bool
  | 0 => pure false
  | fuel + 1 => do
    skipSpaces
    skipComment
    let lineBreak ← scanBreak
    if lineBreak.isEmpty then pure false
    else
      let _ ← skipGap inFlow fuel
      pure !inFlow

/-- Passes over all that stands before the next token. A key may start on a new line. -/
def toNextToken (l : Layout) : Result Layout := do
  let marked := l.cursor.index = 0 && l.cursor.peek 0 = orderMark
  let l := if marked then { l with cursor := l.cursor.next } else l
  let (newLine, l) ← l.scan (do skipGap l.inFlow (← remaining))
  pure { l with keyAllowed := l.keyAllowed || newLine }

/-- The end of the text. -/
def fetchEnd (l : Layout) : Result Layout := do
  let l ← (l.unwind (-1)).giveUpKey
  pure { l.push .streamEnd with finished := true, keyAllowed := false, keys := [] }

/-- The start or the end of a document. -/
def fetchMark (l : Layout) (t : Token) : Result Layout := do
  let l ← (l.unwind (-1)).giveUpKey
  pure ({ l with keyAllowed := false }.pushOver t 3)

/-- A directive. -/
def fetchDirective (l : Layout) : Result Layout := do
  let l ← (l.unwind (-1)).giveUpKey
  let (t, l) ← { l with keyAllowed := false }.scan scanDirective
  pure (l.push t)

/-- An opening bracket. -/
def fetchOpen (l : Layout) (t : Token) : Result Layout := do
  let l ← l.rememberKey
  pure ({ l with depth := l.depth + 1, keyAllowed := true }.pushOver t 1)

/-- A closing bracket. -/
def fetchClose (l : Layout) (t : Token) : Result Layout := do
  if !l.inFlow then invalid
  let l ← l.giveUpKey
  pure ({ l with depth := l.depth - 1, keyAllowed := false }.pushOver t 1)

/-- A comma between brackets. -/
def fetchFlowEntry (l : Layout) : Result Layout := do
  let l ← { l with keyAllowed := true }.giveUpKey
  pure (l.pushOver .flowEntry 1)

/-- A list or mapping outside of brackets starts here, if none has started at this column. -/
def openBlock (l : Layout) (t : Token) : Result Layout :=
  if l.inFlow then pure l
  else if !l.keyAllowed then invalid
  else
    match l.indentTo l.column with
    | some l => pure (l.push t)
    | none => pure l

/-- A hyphen before an item. -/
def fetchBlockEntry (l : Layout) : Result Layout := do
  let l ← l.openBlock .blockListStart
  let l ← { l with keyAllowed := true }.giveUpKey
  pure (l.pushOver .blockEntry 1)

/-- A question mark before a key. -/
def fetchKey (l : Layout) : Result Layout := do
  let l ← l.openBlock .blockMapStart
  let l ← { l with keyAllowed := !l.inFlow }.giveUpKey
  pure (l.pushOver .key 1)

/-- A colon after a simple key: the key, and the mapping that starts with it, are put in their
place. -/
def completeKey (l : Layout) (k : SimpleKey) : Layout :=
  let count := l.count - k.place
  let l := l.forgetKey.insertBefore count .key
  let l :=
    if l.inFlow then l
    else
      match l.indentTo k.column with
      | some l => l.insertBefore (count + 1) .blockMapStart
      | none => l
  { l with keyAllowed := false }

/-- A colon. -/
def fetchValue (l : Layout) : Result Layout := do
  match l.currentKey? with
  | some k => pure ((l.completeKey k).pushOver .value 1)
  | none =>
    let l ← l.openBlock .blockMapStart
    let l ← { l with keyAllowed := !l.inFlow }.giveUpKey
    pure (l.pushOver .value 1)

/-- A token that a key may start with. -/
def fetchPart (l : Layout) (step : Scan Token) : Result Layout := do
  let l ← l.rememberKey
  let (t, l) ← { l with keyAllowed := false }.scan step
  pure (l.push t)

/-- A block of lines. -/
def fetchBlock (l : Layout) : Result Layout := do
  let l ← { l with keyAllowed := true }.giveUpKey
  let (text, l) ← l.scan (scanBlock (max (l.indent + 1) 1).toNat)
  pure (l.push (.scalar text false))

/-- A scalar without quotes. -/
def fetchPlain (l : Layout) : Result Layout := do
  let l ← l.rememberKey
  let ((text, broken), l) ← l.scan (scanPlain l.inFlow (l.indent + 1))
  pure ({ l with keyAllowed := broken }.push (.scalar text true))

/-- The characters that no plain scalar starts with. -/
def isIndicator (c : Char) : Bool :=
  isGap c || "-?:,[]\x7b\x7d#&*!|>\x27\x22%@\x60".toList.contains c

/-- A plain scalar may start here. -/
def startsPlain (l : Layout) : Bool :=
  let c := l.cursor.peek 0
  !isIndicator c || (!isGap (l.cursor.peek 1) && (c = '-' || (!l.inFlow && (c = '?' || c = ':'))))

/-- The next character is an indicator followed by a gap; between brackets the gap is not needed. -/
def isAlone (l : Layout) (looseInFlow : Bool) : Bool :=
  (looseInFlow && l.inFlow) || isGap (l.cursor.peek 1)

/-- The token that starts with a character. -/
def fetchAt (l : Layout) (c : Char) : Result Layout :=
  let atMargin := l.cursor.column = 0
  if l.cursor.rest.isEmpty then l.fetchEnd
  else if c = '%' && atMargin then l.fetchDirective
  else if c = '-' && atMargin && l.cursor.atDocumentMark then l.fetchMark .documentStart
  else if c = '.' && atMargin && l.cursor.atDocumentMark then l.fetchMark .documentEnd
  else if c = '[' then l.fetchOpen .flowListStart
  else if c = '\x7b' then l.fetchOpen .flowMapStart
  else if c = ']' then l.fetchClose .flowListEnd
  else if c = '\x7d' then l.fetchClose .flowMapEnd
  else if c = ',' then l.fetchFlowEntry
  else if c = '-' && l.isAlone false then l.fetchBlockEntry
  else if c = '?' && l.isAlone true then l.fetchKey
  else if c = ':' && l.isAlone true then l.fetchValue
  else if c = '*' then l.fetchPart (Token.alias <$> scanAnchor)
  else if c = '&' then l.fetchPart (Token.anchor <$> scanAnchor)
  else if c = '!' then l.fetchPart scanTag
  else if (c = '|' || c = '>') && !l.inFlow then l.fetchBlock
  else if c = '\x27' || c = '\x22' then
    l.fetchPart ((fun s => Token.scalar s false) <$> scanQuoted)
  else if l.startsPlain then l.fetchPlain
  else invalid

/-- Reads the next token, with those that the layout puts before it. -/
def fetch (l : Layout) : Result Layout := do
  let l ← l.toNextToken
  let l ← l.dropStaleKeys
  let l := l.unwind l.column
  l.fetchAt (l.cursor.peek 0)

/-- The number of tokens before which none can be put any more: those up to the first place at which
a key may still have started. -/
def settledCount (l : Layout) : Nat :=
  (l.keys.filter fun e => !l.isStale e.2).foldl (fun n e => min n e.2.place) l.count

/-- The tokens up to here, if the text cannot be read any further. -/
def brokenOff (l : Layout) (e : Fault) : TokenStream := ⟨l.read.reverse.take l.settledCount, some e⟩

/-- Reads all tokens. -/
def fetchAll : Nat → Layout → TokenStream
  | 0, l => l.brokenOff (.payload .invalidYaml)
  | fuel + 1, l =>
    match l.fetch with
    | .ok next => if next.finished then ⟨next.read.reverse, none⟩ else fetchAll fuel next
    | .error e => l.brokenOff e

end Layout

/-- The tokens of a text. A text with characters that it may not hold has none. -/
def tokens (s : String) : TokenStream :=
  let cs := s.toList
  if cs.all isAllowed then Layout.fetchAll (cs.length + 2) (Layout.start cs)
  else ⟨[], some (.payload .invalidYaml)⟩

end SubmissionRouting.Yaml
