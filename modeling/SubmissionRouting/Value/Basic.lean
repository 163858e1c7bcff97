import SubmissionRouting.Number.Binary64
import SubmissionRouting.Value.Calendar

/-! # Values

The answers, comparands, labels and ids that a form and a response carry are of any kind: nothing,
truth values, whole numbers of any size, double precision numbers, texts, dates, and collections of
values. A *list* may still grow and a *tuple* is fixed; a *mapping* keeps its entries in the order in
which they were put.

A list or mapping can contain itself. Such a value is a *knot*: finitely many collections, its
*strands*, in which links stand for the value that starts at another strand.

* `Value.opened`: the outermost collection of a knot; any other value as it is.
* `Value.strandCount`: how many strands there are, a bound on how deep a walk can go that meets none twice.
* `Value.kind`: the name of a value's kind, as messages give it.
* `Value.isEmpty`: nothing, the empty text and the empty collections.
* `Value.isTruthy`: a value that counts as given; besides the empty ones, false and zero do not.
* `Misuse`: what goes wrong when a value is used as something of another kind. -/

namespace SubmissionRouting

/-- A value of any kind. -/
inductive Value where
  | null
  | bool (b : Bool)
  | int (n : Int)
  | float (x : Binary64)
  | text (s : String)
  | date (d : Date)
  | moment (m : Moment)
  | list (items : List Value)
  | tuple (items : List Value)
  | set (items : List Value)
  | map (entries : List (Value × Value))
  /-- The value that starts at a strand. Nothing else than a strand holds links, and it holds them
  directly. -/
  | knot (strands : List Value) (start : Nat)
  /-- Inside a strand: the value that starts at another one. -/
  | link (strand : Nat)

instance : Inhabited Value := ⟨.null⟩

/-- The ways in which a value can be of the wrong kind for its use. -/
inductive Misuse where
  /-- A value that holds no items was taken as a collection. -/
  | notIterable
  /-- A collection that can change was taken as a key or as a member of a set. -/
  | unhashable
  /-- Something else than a text was joined to a text, or values without an order were sorted. -/
  | notText
  /-- A value has no written form. -/
  | notWritable
  /-- A value without entries was asked for one. -/
  | notAMapping
  /-- A list of entries holds something that is not a pair. -/
  | notAPair
  /-- A whole number is beyond the range of double precision. -/
  | numberTooLarge
  /-- A whole number has too many digits to be written or to be read. -/
  | tooManyDigits
  /-- A value that contains itself was to be written to its end. -/
  | endless
  /-- Conditions are nested in one that contains itself. -/
  | bottomless
  /-- A text does not denote a number or a day. -/
  | badNumber
  /-- A text that should denote a number is empty. -/
  | emptyNumber
  /-- A text does not denote a truth value. -/
  | badTruthValue
  /-- A text does not have the form of a date. -/
  | badDate
deriving DecidableEq

namespace Value

/-! ### Knots -/

/-- A link as the value that it stands for. -/
def tied (strands : List Value) : Value → Value
  | link n => knot strands n
  | v => v

/-- A strand with the values that its links stand for. -/
def tiedItems (strands : List Value) : Value → Value
  | list items => list (items.map (tied strands))
  | tuple items => tuple (items.map (tied strands))
  | map entries => map (entries.map fun e => (e.1, tied strands e.2))
  | v => v

/-- The outermost collection of a knot; any other value as it is. -/
def opened : Value → Value
  | knot strands start => tiedItems strands (strands.getD start null)
  | v => v

@[simp] theorem opened_list (items : List Value) : (list items).opened = list items := rfl

@[simp] theorem opened_tuple (items : List Value) : (tuple items).opened = tuple items := rfl

@[simp] theorem opened_map (entries : List (Value × Value)) :
    (map entries).opened = map entries := rfl

@[simp] theorem opened_text (s : String) : (text s).opened = text s := rfl

mutual

/-- The number of strands in a value. -/
def strandCount : Value → Nat
  | list items => strandCounts items
  | tuple items => strandCounts items
  | set items => strandCounts items
  | map entries => entryStrandCounts entries
  | knot strands _ => strands.length + strandCounts strands
  | _ => 0

/-- The number of strands in several values. -/
def strandCounts : List Value → Nat
  | [] => 0
  | v :: vs => strandCount v + strandCounts vs

/-- The number of strands in the values of entries. -/
def entryStrandCounts : List (Value × Value) → Nat
  | [] => 0
  | (_, v) :: es => strandCount v + entryStrandCounts es

end

/-! ### Kinds -/

/-- The name of a value's kind. -/
def kind (v : Value) : String :=
  match v.opened with
  | null => "NoneType"
  | bool _ => "bool"
  | int _ => "int"
  | float _ => "float"
  | text _ => "str"
  | date _ => "date"
  | moment _ => "datetime"
  | tuple _ => "tuple"
  | set _ => "set"
  | map _ => "dict"
  | list _ | knot _ _ | link _ => "list"

/-- Nothing, the empty text, and the empty collections. -/
def isEmpty (v : Value) : Bool :=
  match v.opened with
  | null => true
  | text s => s == ""
  | list items => items.isEmpty
  | tuple items => items.isEmpty
  | set items => items.isEmpty
  | map entries => entries.isEmpty
  | _ => false

/-- A value that counts as given. -/
def isTruthy : Value → Bool
  | null => false
  | bool b => b
  | int n => n != 0
  | float x => !x.isZero
  | text s => s != ""
  | list items => !items.isEmpty
  | tuple items => !items.isEmpty
  | set items => !items.isEmpty
  | map entries => !entries.isEmpty
  | date _ | moment _ | knot _ _ | link _ => true

/-- Nothing. -/
def isNull : Value → Bool
  | null => true
  | _ => false

/-- The first value if it counts as given, else the second. -/
def orElse (v w : Value) : Value := if v.isTruthy then v else w

end Value

end SubmissionRouting
