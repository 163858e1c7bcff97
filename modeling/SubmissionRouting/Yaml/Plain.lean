import SubmissionRouting.Number.Reading
import SubmissionRouting.Value.Basic

/-! # What a plain scalar denotes

A scalar without quotes and without a tag denotes a truth value, a number, a day or a moment,
nothing, or else a text, as its form says.

* `Kind`: the kinds, with the names of their tags.
* `plainKind`: the kind of a plain scalar.
* `Stamp`: the parts of a day or moment; `stamp?` reads them. -/

namespace SubmissionRouting.Yaml

/-- The kinds of nodes that have a standard tag. -/
inductive Kind where
  | null
  | bool
  | int
  | float
  | text
  | stamp
  | list
  | map
  | set
  | orderedMap
  | pairs
  | merge
  | default
  | indicator
deriving DecidableEq

/-- How the names of the standard tags start. -/
def standardPrefix : String := "tag:yaml.org,2002:"

namespace Kind

/-- The names of the standard tags, without their common start. -/
def names : List (String × Kind) :=
  [("null", null), ("bool", bool), ("int", int), ("float", float), ("str", text),
    ("timestamp", stamp), ("seq", list), ("map", map), ("set", set), ("omap", orderedMap),
    ("pairs", pairs), ("merge", merge), ("value", default), ("yaml", indicator)]

/-- The kind with a tag. -/
def ofTag? (tag : String) : Option Kind :=
  (names.find? fun e => standardPrefix ++ e.1 == tag).map (·.2)

/-- The tag of a kind. -/
def tag (k : Kind) : String :=
  standardPrefix ++ (((names.find? fun e => e.2 == k).map (·.1)).getD "")

end Kind

/-! ### Truth values and nothing -/

/-- A word in small letters, with a capital at its start, or in capitals. -/
def spellings (word : String) : List String := [word, word.capitalize, word.toUpper]

/-- The words for truth. -/
def trueWords : List String := ["yes", "true", "on"]

/-- The words for falsehood. -/
def falseWords : List String := ["no", "false", "off"]

/-- The scalar denotes a truth value. -/
def isBoolText (s : String) : Bool := ((trueWords ++ falseWords).flatMap spellings).contains s

/-- The scalar denotes nothing. -/
def isNullText (s : String) : Bool := ("" :: "~" :: spellings "null").contains s

/-! ### Numbers -/

/-- A digit. -/
def isDigit (c : Char) : Bool := '0' ≤ c && c ≤ '9'

/-- A digit or a low line. -/
def isLooseDigit (c : Char) : Bool := isDigit c || c = '_'

/-- The text without a sign in front. -/
def unsigned (cs : List Char) : List Char := (Text.takeSign cs).2

/-- The parts of a text between colons. -/
def colonParts (cs : List Char) : List (List Char) := cs.splitOn ':'

/-- A sexagesimal digit. -/
def isSixtieth (cs : List Char) : Bool :=
  match cs with
  | [c] => isDigit c
  | [c, d] => '0' ≤ c && c ≤ '5' && isDigit d
  | _ => false

/-- A whole number with a digit other than zero in front. -/
def startsNonZero (cs : List Char) : Bool :=
  match cs with
  | c :: more => '1' ≤ c && c ≤ '9' && more.all isLooseDigit
  | [] => false

/-- A whole number of a base whose digits follow a letter. -/
def isBased (letter : Char) (isBaseDigit : Char → Bool) (cs : List Char) : Bool :=
  match cs with
  | '0' :: l :: digits =>
    l = letter && !digits.isEmpty && digits.all fun c => isBaseDigit c || c = '_'
  | _ => false

/-- A whole number of base eight. -/
def isOctal (cs : List Char) : Bool :=
  match cs with
  | '0' :: digits => !digits.isEmpty && digits.all fun c => ('0' ≤ c && c ≤ '7') || c = '_'
  | _ => false

/-- The scalar denotes a whole number. -/
def isIntText (cs : List Char) : Bool :=
  let cs := unsigned cs
  cs = ['0'] || startsNonZero cs || isOctal cs || isBased 'b' (fun c => c = '0' || c = '1') cs ||
    isBased 'x' (fun c => isDigit c || ('a' ≤ c && c ≤ 'f') || ('A' ≤ c && c ≤ 'F')) cs ||
    (match colonParts cs with
      | first :: more => !more.isEmpty && startsNonZero first && more.all isSixtieth
      | [] => false)

/-- Digits and low lines that start with a digit. -/
def startsDigit (cs : List Char) : Bool :=
  match cs with
  | c :: more => isDigit c && more.all isLooseDigit
  | [] => false

/-- A signed exponent, or nothing. -/
def isSignedExponent (cs : List Char) : Bool :=
  match cs with
  | [] => true
  | e :: sign :: digits =>
    (e = 'e' || e = 'E') && (sign = '+' || sign = '-') && !digits.isEmpty && digits.all isDigit
  | _ => false

/-- A number with a point, and possibly an exponent. -/
def isPointed (whole cs : List Char) (signed : Bool) : Bool :=
  match cs with
  | '.' :: more =>
    let fraction := more.takeWhile isLooseDigit
    isSignedExponent (more.dropWhile isLooseDigit) &&
      (if whole.isEmpty then !signed && startsDigit fraction else startsDigit whole)
  | _ => false

/-- A sexagesimal number with a point. -/
def isSexagesimal (cs : List Char) : Bool :=
  match colonParts (cs.takeWhile (· ≠ '.')) with
  | first :: more =>
    !more.isEmpty && startsDigit first && more.all isSixtieth &&
      (match cs.dropWhile (· ≠ '.') with
        | _ :: fraction => fraction.all isLooseDigit
        | [] => false)
  | [] => false

/-- The scalar denotes a number with a point. -/
def isFloatText (cs : List Char) : Bool :=
  let plain := unsigned cs
  let signed := plain.length < cs.length
  isPointed (plain.takeWhile isLooseDigit) (plain.dropWhile isLooseDigit) signed ||
    isSexagesimal plain ||
    [".inf", ".Inf", ".INF"].contains (String.ofList plain) ||
    [".nan", ".NaN", ".NAN"].contains (String.ofList cs)

/-! ### Days and moments -/

/-- The time of a moment: its parts, and the distance from universal time if it is given. -/
structure StampTime where
  hour : Nat
  minute : Nat
  second : Nat
  fraction : List Char
  offset : Option Int

/-- The parts of a day or moment. -/
structure Stamp where
  year : Nat
  month : Nat
  day : Nat
  /-- Month and day have two digits. -/
  full : Bool
  time : Option StampTime

/-- Reads at least and at most so many digits: their number, their value and the rest. -/
def digitsUpTo? (least most : Nat) (cs : List Char) : Option (Nat × Nat × List Char) :=
  let digits := (cs.take most).takeWhile isDigit
  if digits.length < least then none
  else some (digits.length, Text.decimalValue digits, cs.drop digits.length)

/-- Reads a character. -/
def only? (c : Char) (cs : List Char) : Option (List Char) :=
  match cs with
  | d :: more => if d = c then some more else none
  | [] => none

/-- A space or a tab. -/
def isBlankChar (c : Char) : Bool := c = ' ' || c = '\t'

/-- Reads the distance from universal time in minutes, up to the end. -/
def offset? (cs : List Char) : Option (Option Int) :=
  match cs.dropWhile isBlankChar with
  | [] => if cs.isEmpty then some none else none
  | ['Z'] => some (some 0)
  | sign :: more =>
    if sign ≠ '+' ∧ sign ≠ '-' then none
    else do
      let (_, hours, rest) ← digitsUpTo? 1 2 more
      let minutes ←
        match rest with
        | [] => some 0
        | rest => do
          let (_, minutes, rest) ← digitsUpTo? 2 2 (← only? ':' rest)
          if rest.isEmpty then some minutes else none
      let total : Int := hours * 60 + minutes
      some (some (if sign = '-' then -total else total))

/-- Reads the fraction of a second. -/
def takeStampFraction (cs : List Char) : List Char × List Char :=
  match cs with
  | '.' :: more => (more.takeWhile isDigit, more.dropWhile isDigit)
  | cs => ([], cs)

/-- Passes over what stands between a day and a time. -/
def stampGap? (cs : List Char) : Option (List Char) :=
  match cs with
  | c :: more =>
    if c = 'T' ∨ c = 't' then some more
    else if isBlankChar c then some (more.dropWhile isBlankChar)
    else none
  | [] => none

/-- Reads the time of a moment, up to the end. -/
def stampTime? (cs : List Char) : Option StampTime := do
  let rest ← stampGap? cs
  let (_, hour, rest) ← digitsUpTo? 1 2 rest
  let (_, minute, rest) ← digitsUpTo? 2 2 (← only? ':' rest)
  let (_, second, rest) ← digitsUpTo? 2 2 (← only? ':' rest)
  let (fraction, rest) := takeStampFraction rest
  let offset ← offset? rest
  some ⟨hour, minute, second, fraction, offset⟩

/-- The parts of a day or moment. -/
def stamp? (cs : List Char) : Option Stamp := do
  let (_, year, rest) ← digitsUpTo? 4 4 cs
  let (m, month, rest) ← digitsUpTo? 1 2 (← only? '-' rest)
  let (d, day, rest) ← digitsUpTo? 1 2 (← only? '-' rest)
  let time ← if rest.isEmpty then some none else some <$> stampTime? rest
  some ⟨year, month, day, m = 2 && d = 2, time⟩

/-- The scalar denotes a day or a moment. -/
def isStampText (cs : List Char) : Bool :=
  match stamp? cs with
  | some s => s.full || s.time.isSome
  | none => false

/-! ### The kind of a scalar -/

/-- The characters that decide on the kind: a line feed at the end does not count. -/
def significant (cs : List Char) : List Char :=
  if cs.getLast? = some '\n' && cs.length > 1 then cs.dropLast else cs

/-- The kind of a plain scalar. -/
def plainKind (s : String) : Kind :=
  let cs := significant s.toList
  let text := String.ofList cs
  if isBoolText text then .bool
  else if isFloatText cs then .float
  else if isIntText cs then .int
  else if text = "<<" then .merge
  else if isNullText text then .null
  else if isStampText cs then .stamp
  else if text = "=" then .default
  else if text = "!" || text = "&" || text = "*" then .indicator
  else .text

end SubmissionRouting.Yaml
