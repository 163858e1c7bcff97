import SubmissionRouting.Number.Shortest
import SubmissionRouting.Text.Digit
import SubmissionRouting.Text.Quoted
import SubmissionRouting.Value.Basic

/-! # The text of a value

Comparisons, messages and forwarded parameters use the text of a value. A text is its own text; any
other value has the text of its *literal* form, in which a text inside a collection is quoted. Where
a collection contains itself, three points stand for it. A value has no text if it holds a whole
number with too many digits.

* `wholeText`: a whole number in decimal.
* `Value.layout`: how numbers are set.
* `Value.literal`: the literal form.
* `Value.shown`: the text. -/

namespace SubmissionRouting

/-- A whole number in decimal. -/
def decimalText (n : Int) : String :=
  String.ofList (if n < 0 then '-' :: Nat.toDigits 10 n.natAbs else Nat.toDigits 10 n.natAbs)

/-- A whole number in decimal, unless it has too many digits. -/
def wholeText (n : Int) : Except Misuse String :=
  if (Nat.toDigits 10 n.natAbs).length ≤ Text.digitLimit then .ok (decimalText n)
  else .error .tooManyDigits

namespace Value

/-! ### Scalars -/

/-- Numbers are set with the names of the special ones in small letters. -/
def layout : Layout := ⟨"nan", "inf", false⟩

/-- The literal form of a distance from universal time. -/
def offsetLiteral (minutes : Int) : String :=
  if minutes = 0 then "datetime.timezone.utc"
  else
    let seconds := minutes * 60
    let span :=
      if seconds < 0 then "days=-1, seconds=" ++ decimalText (seconds + 86400)
      else "seconds=" ++ decimalText seconds
    "datetime.timezone(datetime.timedelta(" ++ span ++ "))"

/-- The literal form of a date. -/
def dateLiteral (d : Date) : String :=
  "datetime.date(" ++ ", ".intercalate ([d.year, d.month, d.day].map fun n : Nat => decimalText n) ++ ")"

/-- The literal form of a moment; seconds and microseconds stand only if they are not zero. -/
def momentLiteral (m : Moment) : String :=
  let parts := [m.date.year, m.date.month, m.date.day, m.hour, m.minute] ++
    (if m.microsecond ≠ 0 then [m.second, m.microsecond]
      else if m.second ≠ 0 then [m.second] else [])
  let zone :=
    match m.offset with
    | none => ""
    | some o => ", tzinfo=" ++ offsetLiteral o
  "datetime.datetime(" ++ ", ".intercalate (parts.map fun n : Nat => decimalText n) ++ zone ++ ")"

/-! ### Collections -/

/-- The literal form of a list. -/
def listLiteral (items : List String) : String := "[" ++ ", ".intercalate items ++ "]"

/-- The literal form of a tuple; a comma follows a single item. -/
def tupleLiteral : List String → String
  | [one] => "(" ++ one ++ ",)"
  | items => "(" ++ ", ".intercalate items ++ ")"

/-- What stands between braces. -/
def braced (parts : List String) : String := "\x7b" ++ ", ".intercalate parts ++ "\x7d"

/-- The literal form of a set. -/
def setLiteral : List String → String
  | [] => "set()"
  | items => braced items

/-- What stands for a collection inside itself. -/
def ellipsis : Value → String
  | tuple _ => tupleLiteral ["..."]
  | map _ => braced ["..."]
  | _ => listLiteral ["..."]

/-- A literal form that depends on those of the links in it. -/
abbrev LinkedLiteral := (Nat → Except Misuse String) → Except Misuse String

/-- The literal form of a strand, given those of all strands with links in them. On the way to this
strand are the strands of a path; each of them is shortened. Fuel is the number of strands that are
not on the path, and one more. -/
def strandLiteral (strands : List Value) (forms : List LinkedLiteral) :
    Nat → List Nat → Nat → Except Misuse String
  | 0, _, n => .ok (ellipsis (strands.getD n null))
  | fuel + 1, path, n =>
    if path.contains n then .ok (ellipsis (strands.getD n null))
    else forms.getD n (fun _ => .ok "") (strandLiteral strands forms fuel (n :: path))

mutual

/-- The literal form of a value, given those of the links in it. -/
def linkedLiteral : Value → LinkedLiteral
  | null, _ => .ok "None"
  | bool b, _ => .ok (if b then "True" else "False")
  | int n, _ => wholeText n
  | float x, _ => .ok (x.text layout)
  | text s, _ => .ok (Text.quoted s)
  | date d, _ => .ok (dateLiteral d)
  | moment m, _ => .ok (momentLiteral m)
  | list items, links => listLiteral <$> linkedLiterals items links
  | tuple items, links => tupleLiteral <$> linkedLiterals items links
  | set items, links => setLiteral <$> linkedLiterals items links
  | map entries, links => braced <$> entryLiterals entries links
  | knot strands start, _ =>
    strandLiteral strands (strandForms strands) (strands.length + 1) [] start
  | link n, links => links n
termination_by structural v => v

/-- The literal forms of several values. -/
def linkedLiterals : List Value → (Nat → Except Misuse String) → Except Misuse (List String)
  | [], _ => .ok []
  | v :: vs, links => do
    let first ← linkedLiteral v links
    let others ← linkedLiterals vs links
    pure (first :: others)
termination_by structural vs => vs

/-- The literal forms of entries. -/
def entryLiterals : List (Value × Value) → (Nat → Except Misuse String) →
    Except Misuse (List String)
  | [], _ => .ok []
  | (k, v) :: es, links => do
    let key ← linkedLiteral k links
    let value ← linkedLiteral v links
    let others ← entryLiterals es links
    pure ((key ++ ": " ++ value) :: others)
termination_by structural es => es

/-- The literal forms of strands. -/
def strandForms : List Value → List LinkedLiteral
  | [] => []
  | v :: vs => (fun links => linkedLiteral v links) :: strandForms vs
termination_by structural vs => vs

end

/-- The literal form of a value. -/
def literal (v : Value) : Except Misuse String := linkedLiteral v fun _ => .ok ""

/-- The text of a value. -/
def shown : Value → Except Misuse String
  | text s => .ok s
  | date d => .ok d.text
  | moment m => .ok m.text
  | v => literal v

@[simp] theorem shown_text (s : String) : shown (text s) = .ok s := rfl

end Value

end SubmissionRouting
