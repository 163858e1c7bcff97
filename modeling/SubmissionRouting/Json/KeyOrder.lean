import SubmissionRouting.Value.Equality

/-! # The order of keys

Entries are sorted by their keys: texts among texts, and numbers among numbers. What is not a number is
neither less nor greater than any number, so where it comes to stand depends on how the keys are
compared: the run of rising or of falling keys at the start is taken over, and every further key is
put in at the place that is found by halving.

* `keyLess`: the order of keys.
* `insertHalving`: puts one item into a sorted list.
* `sortedByHalving`: sorts a list.
* `sortedEntries`: entries in the order of their keys. -/

namespace SubmissionRouting.Json

/-! ### Keys -/

/-- The place of a number among all numbers: below, among or above the finite ones, and its count of
units. -/
def place? : Quantity → Option (Int × Int)
  | .whole n => some (0, n * Binary64.unit)
  | .real (.ranked negative rank) =>
    some (if rank.val = infinityRank then (if negative then (-1, 0) else (1, 0))
      else (0, Binary64.signedUnits negative rank))
  | .real (.nan _) => none

/-- The order of numbers. -/
def quantityLess (a b : Quantity) : Bool :=
  match place? a, place? b with
  | some (i, m), some (j, n) => i < j || (i == j && m < n)
  | _, _ => false

/-- The order of keys: texts among texts, and numbers among numbers. -/
def keyLess (a b : Value) : Bool :=
  match a, b with
  | .text s, .text t => s < t
  | a, b =>
    match a.quantity?, b.quantity? with
    | some x, some y => quantityLess x y
    | _, _ => false

/-- A text. -/
def isText : Value → Bool
  | .text _ => true
  | _ => false

/-- Keys that have an order. -/
def areOrdered (keys : List Value) : Bool :=
  keys.length ≤ 1 || keys.all isText || keys.all fun k => k.quantity?.isSome

/-! ### Sorting -/

section Sorting

variable {α : Type} (less : α → α → Bool)

/-- Puts an item into a sorted list, behind those that it is not less than. -/
def insertHalving (a : α) (l : List α) : List α :=
  match _ : l.drop (l.length / 2) with
  | [] => l ++ [a]
  | b :: right =>
    if less a b then insertHalving a (l.take (l.length / 2)) ++ b :: right
    else l.take (l.length / 2) ++ b :: insertHalving a right
termination_by l.length
decreasing_by
  all_goals
    have h := congrArg List.length ‹l.drop _ = _›
    simp only [List.length_drop, List.length_cons, List.length_take] at h ⊢
    omega

/-- The items at the start each of which goes on from the one before it, and the others. -/
def takeRun (goesOn : α → α → Bool) (last : α) : List α → List α × List α
  | [] => ([], [])
  | b :: l =>
    if goesOn last b then
      let (run, rest) := takeRun goesOn b l
      (b :: run, rest)
    else ([], b :: l)

/-- The rising run at the start, or the falling one in reverse, and the other items. -/
def startingRun : List α → List α × List α
  | a :: b :: l =>
    if less b a then
      let (run, rest) := takeRun (fun x y => less y x) a (b :: l)
      ((a :: run).reverse, rest)
    else
      let (run, rest) := takeRun (fun x y => !less y x) a (b :: l)
      (a :: run, rest)
  | l => (l, [])

/-- The items in order; of two that are equal the first stays the first. -/
def sortedByHalving (l : List α) : List α :=
  let (run, rest) := startingRun less l
  rest.foldl (fun sorted a => insertHalving less a sorted) run

end Sorting

/-- Entries in the order of their keys. -/
def sortedEntries {α : Type} (es : List (Value × α)) : Except Misuse (List (Value × α)) :=
  if areOrdered (es.map (·.1)) then .ok (sortedByHalving (fun a b => keyLess a.1 b.1) es)
  else .error .notText

end SubmissionRouting.Json
