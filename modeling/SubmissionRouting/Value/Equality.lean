import SubmissionRouting.Value.Basic

/-! # Equality of values

Values are equal across kinds where they denote the same number: `true` is `1` and `1.0`. Lists and
tuples are equal item by item, but a list is never equal to a tuple. Sets and mappings are equal
whatever the order of their items. What is not a number is not even equal to itself; but as a key, as
a member of a set and as an item of a collection it is known again by its mark. A value that contains
itself is equal to nothing.

* `Value.alike`: equality of keys, of members and of items.
* `Value.same`: equality of two values by themselves.
* `Value.isKey`: the values that can stand as a key: all but lists, sets and mappings, and tuples
  whose items are keys. -/

namespace SubmissionRouting

/-- A number of either kind. -/
inductive Quantity where
  | whole (n : Int)
  | real (x : Binary64)

/-- Equality of numbers, without rounding; what is not a number is known again by its mark. -/
def Quantity.alike : Quantity → Quantity → Bool
  | whole m, whole n => m == n
  | whole m, real y => y.sameInt m
  | real x, whole n => x.sameInt n
  | real x, real y => x.alike y

namespace Value

/-- The number that a value denotes. -/
def quantity? : Value → Option Quantity
  | bool b => some (.whole (if b then 1 else 0))
  | int n => some (.whole n)
  | float x => some (.real x)
  | _ => none

/-- Equality of values that are not collections. -/
def scalarsAlike (v w : Value) : Bool :=
  match v.quantity?, w.quantity? with
  | some a, some b => a.alike b
  | _, _ =>
    match v, w with
    | null, null => true
    | text s, text t => s == t
    | date d, date e => d == e
    | moment a, moment b => a.same b
    | _, _ => false

mutual

/-- Equality of keys, of members and of items. -/
def alike : Value → Value → Bool
  | list xs, w => match w with
    | list ys => allAlike xs ys
    | _ => false
  | tuple xs, w => match w with
    | tuple ys => allAlike xs ys
    | _ => false
  | set xs, w => match w with
    | set ys => xs.length == ys.length && allIn xs ys
    | _ => false
  | map es, w => match w with
    | map fs => es.length == fs.length && allEntriesIn es fs
    | _ => false
  | v, w => scalarsAlike v w
termination_by structural v => v

/-- Equality of lists, item by item. -/
def allAlike : List Value → List Value → Bool
  | [], ys => ys.isEmpty
  | x :: xs, ys => match ys with
    | [] => false
    | y :: ys => alike x y && allAlike xs ys
termination_by structural xs => xs

/-- Every value of the first list is equal to one of the second. -/
def allIn : List Value → List Value → Bool
  | [], _ => true
  | x :: xs, ys => ys.any (fun y => alike x y) && allIn xs ys
termination_by structural xs => xs

/-- Every entry of the first list has an equal one in the second. -/
def allEntriesIn : List (Value × Value) → List (Value × Value) → Bool
  | [], _ => true
  | (k, v) :: es, fs => fs.any (fun f => alike k f.1 && alike v f.2) && allEntriesIn es fs
termination_by structural es => es

end

/-- What is not a number. -/
def isNaN : Value → Bool
  | float x => x.isNaN
  | _ => false

/-- Equality of two values by themselves. -/
def same (v w : Value) : Bool := !v.isNaN && alike v w

mutual

/-- The values that can stand as a key. -/
def isKey : Value → Bool
  | list _ => false
  | set _ => false
  | map _ => false
  | knot _ _ => false
  | link _ => false
  | tuple items => areKeys items
  | _ => true

/-- All items can stand as keys. -/
def areKeys : List Value → Bool
  | [] => true
  | v :: vs => isKey v && areKeys vs

end

/-- A key, or the fault of using something else as one. -/
def asKey (v : Value) : Except Misuse Value := if v.isKey then .ok v else .error .unhashable

/-- A value is in a list if it is equal to one of its items. -/
def isIn (v : Value) (vs : List Value) : Bool := vs.any fun w => alike w v

/-- The values met so far with one more, if it is new. -/
def noted (seen : List Value) (v : Value) : List Value := if v.isIn seen then seen else seen ++ [v]

/-- The values without those that are equal to an earlier one. -/
def distinct (vs : List Value) : List Value := vs.foldl noted []

@[simp] theorem asKey_text (s : String) : (text s).asKey = .ok (text s) := rfl

@[simp] theorem alike_text (s t : String) : alike (text s) (text t) = (s == t) := rfl

@[simp] theorem same_text (s t : String) : same (text s) (text t) = (s == t) := rfl

theorem same_text_iff {s : String} {v : Value} : same (text s) v = true ↔ v = text s := by
  cases v with
  | text t => rw [same_text, beq_iff_eq, text.injEq, eq_comm]
  | _ => exact iff_of_false Bool.false_ne_true nofun

theorem same_text_right_iff {v : Value} {s : String} : same v (text s) = true ↔ v = text s := by
  cases v with
  | text t => rw [same_text, beq_iff_eq, text.injEq]
  | _ => simp [same, alike, scalarsAlike, quantity?]

end Value

end SubmissionRouting
