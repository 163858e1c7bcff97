/-! # Percent encoding

The form of names and values in a query string. Letters, digits and `_ . - ~` stand for themselves,
a space is written `+`, and every other character is written byte by byte in UTF-8, each byte as a
percent sign and two hexadecimal digits in capitals.

* `percentEncoded`: the encoded form of a text.
* `queryString`: pairs joined by `=`, and the pairs by `&`. -/

namespace SubmissionRouting.Text

/-- A character that stands for itself in a query string. -/
def isUnreserved (c : Char) : Bool :=
  c.isAlphanum || c = '_' || c = '.' || c = '-' || c = '~'

/-- A hexadecimal digit in capitals. -/
def capitalHexDigit (n : Nat) : Char :=
  if n < 10 then Char.ofNat (0x30 + n) else Char.ofNat (0x37 + n)

/-- A byte as a percent sign and two digits. -/
def percentByte (b : UInt8) : List Char :=
  ['%', capitalHexDigit (b.toNat / 16), capitalHexDigit (b.toNat % 16)]

/-- The bytes of a character in UTF-8. -/
def utf8Bytes (c : Char) : List UInt8 := (String.singleton c).toUTF8.toList

/-- The encoded form of a character. -/
def percentChar (c : Char) : List Char :=
  if isUnreserved c then [c]
  else if c = ' ' then ['+']
  else (utf8Bytes c).flatMap percentByte

/-- The encoded form of a text. -/
def percentEncoded (s : String) : String := String.ofList (s.toList.flatMap percentChar)

/-- The query string of a list of named texts. -/
def queryString (pairs : List (String × String)) : String :=
  "&".intercalate (pairs.map fun p => percentEncoded p.1 ++ "=" ++ percentEncoded p.2)

end SubmissionRouting.Text
