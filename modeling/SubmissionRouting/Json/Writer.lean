import SubmissionRouting.Text.Quoted
import SubmissionRouting.Value.Literal
import SubmissionRouting.Json.KeyOrder

/-! # Writing JSON

A value in JSON, in characters of seven bits only: all others are escaped by their codes, those
beyond sixteen bits as pairs. Tuples are written as lists. Keys are texts, or scalars written as
texts. Sets and dates have no written form, nor have whole numbers with too many digits and values that
contain themselves; the first of these from left to right is the fault.

* `Style`: whether entries are sorted by their keys, and how far inner lines are indented.
* `quotedText`: a text in double quotes.
* `write`: a value in a style. -/

namespace SubmissionRouting.Json

/-- How values are set. -/
structure Style where
  sorted : Bool
  /-- The width of one step of indentation; without it, all stands on one line. -/
  indent : Option Nat

/-- One line, with the entries of mappings sorted. -/
def canonical : Style := ⟨true, none⟩

/-- One line, with the entries of mappings as they are. -/
def compact : Style := ⟨false, none⟩

/-- Several lines, indented by two. -/
def pretty : Style := ⟨false, some 2⟩

/-! ### Scalars -/

/-- A code of sixteen bits. -/
def escapeUnit (n : Nat) : List Char := '\\' :: 'u' :: Text.hexDigits 4 n

/-- A character of a text in double quotes. -/
def quotedChar (c : Char) : List Char :=
  if c = '\x22' ∨ c = '\\' then ['\\', c]
  else if c = '\n' then ['\\', 'n']
  else if c = '\r' then ['\\', 'r']
  else if c = '\t' then ['\\', 't']
  else if c = '\x08' then ['\\', 'b']
  else if c = '\x0c' then ['\\', 'f']
  else if ' ' ≤ c ∧ c ≤ '~' then [c]
  else if c.toNat < 0x10000 then escapeUnit c.toNat
  else
    let n := c.toNat - 0x10000
    escapeUnit (0xD800 + n / 0x400) ++ escapeUnit (0xDC00 + n % 0x400)

/-- A text in double quotes. -/
def quotedText (s : String) : String :=
  String.ofList ('\x22' :: s.toList.flatMap quotedChar ++ ['\x22'])

/-- Numbers are set with the names of the special ones in capital letters. -/
def layout : Layout := ⟨"NaN", "Infinity", false⟩

/-- The text of a scalar that is no text itself. -/
def scalarText : Value → Except Misuse String
  | .null => .ok "null"
  | .bool b => .ok (if b then "true" else "false")
  | .int n => wholeText n
  | .float x => .ok (x.text layout)
  | _ => .error .notWritable

/-- The text of a key. -/
def keyText : Value → Except Misuse String
  | .text s => .ok s
  | k => scalarText k

/-! ### Collections -/

/-- Parts between brackets, at a depth of nesting. -/
def bracketed (style : Style) (depth : Nat) (left right : String) (parts : List String) : String :=
  match style.indent, parts with
  | _, [] => left ++ right
  | none, parts => left ++ ", ".intercalate parts ++ right
  | some width, parts =>
    let line (n : Nat) := "\n" ++ String.ofList (List.replicate (width * n) ' ')
    left ++ line (depth + 1) ++ ("," ++ line (depth + 1)).intercalate parts ++ line depth ++ right

/-- An entry, given the text of what its key stands for. -/
def entryText (e : Value × Except Misuse String) : Except Misuse String := do
  let key ← keyText e.1
  let value ← e.2
  pure (quotedText key ++ ": " ++ value)

/-- Entries between braces, given the texts of what their keys stand for. -/
def bracedEntries (style : Style) (depth : Nat) (es : List (Value × Except Misuse String)) :
    Except Misuse String := do
  let es ← if style.sorted then sortedEntries es else pure es
  let parts ← es.mapM entryText
  pure (bracketed style depth "\x7b" "\x7d" parts)

/-- The text of a link at a depth of nesting. -/
abbrev LinkText := Nat → Nat → Except Misuse String

/-- The text of a strand, given those of all strands with links in them. A strand that is met again on
the way from itself has no end. Fuel is the number of strands that are not on the path, and one
more. -/
def strandText (forms : List (LinkText → Nat → Except Misuse String)) :
    Nat → List Nat → LinkText
  | 0, _, _, _ => .error .endless
  | fuel + 1, path, n, depth =>
    if path.contains n then .error .endless
    else forms.getD n (fun _ _ => .error .endless) (strandText forms fuel (n :: path)) depth

mutual

/-- A value in a style, given the links in it, at a depth of nesting. -/
def writeAt (style : Style) : Value → LinkText → Nat → Except Misuse String
  | .text s, _, _ => pure (quotedText s)
  | .list vs, links, depth => bracketed style depth "[" "]" <$> writeAll style vs links (depth + 1)
  | .tuple vs, links, depth => bracketed style depth "[" "]" <$> writeAll style vs links (depth + 1)
  | .map es, links, depth => bracedEntries style depth (writeEntries style es links (depth + 1))
  | .knot strands start, _, depth =>
    strandText (writeStrands style strands) (strands.length + 1) [] start depth
  | .link n, links, depth => links n depth
  | v, _, _ => scalarText v
termination_by structural v => v

/-- Several values in a style. -/
def writeAll (style : Style) : List Value → LinkText → Nat → Except Misuse (List String)
  | [], _, _ => pure []
  | v :: vs, links, depth => do
    let first ← writeAt style v links depth
    let others ← writeAll style vs links depth
    pure (first :: others)
termination_by structural vs => vs

/-- The keys of entries, each with the text of what it stands for. -/
def writeEntries (style : Style) :
    List (Value × Value) → LinkText → Nat → List (Value × Except Misuse String)
  | [], _, _ => []
  | (k, v) :: es, links, depth => (k, writeAt style v links depth) :: writeEntries style es links depth
termination_by structural es => es

/-- Strands in a style. -/
def writeStrands (style : Style) : List Value → List (LinkText → Nat → Except Misuse String)
  | [] => []
  | v :: vs => (fun links depth => writeAt style v links depth) :: writeStrands style vs
termination_by structural vs => vs

end

/-- A value in a style. -/
def write (style : Style) (v : Value) : Except Misuse String :=
  writeAt style v (fun _ _ => .error .endless) 0

end SubmissionRouting.Json
