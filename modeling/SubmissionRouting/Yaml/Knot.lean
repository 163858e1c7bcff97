import SubmissionRouting.Yaml.Collection

/-! # The values of collections

A collection is settled as soon as all collections that it holds are. Those that hold each other never
are: they become the strands of a knot, as soon as all others that they hold are settled.

* `Collection.value?`: the value of a collection, given those of its parts.
* `reached`: the collections that others lead to.
* `Settled.settle`: settles all collections.
* `Part.toValue`: the value of a part. -/

namespace SubmissionRouting.Yaml

/-! ### One collection -/

/-- The value of a part, given those of the collections. -/
def Part.value? (known : Nat → Option Value) : Part → Option Value
  | value v => some v
  | collection number => known number

namespace Collection

/-- The value of a collection, given those of the collections in it. -/
def value? (known : Nat → Option Value) : Collection → Option Value
  | awaited _ => none
  | list ps => (ps.mapM (Part.value? known)).map Value.list
  | tuple ps => (ps.mapM (Part.value? known)).map Value.tuple
  | set vs => some (.set vs)
  | map es =>
    (es.mapM fun (e : Value × Part) => (e.2.value? known).map fun v => (e.1, v)).map Value.map

/-- The parts of a collection that may be collections. -/
def parts : Collection → List Part
  | awaited _ => []
  | list ps => ps
  | tuple ps => ps
  | set _ => []
  | map es => es.map (·.2)

/-- The collections in a collection. -/
def held (c : Collection) : List Nat :=
  c.parts.filterMap fun p =>
    match p with
    | .value _ => none
    | .collection number => some number

end Collection

/-! ### Ways through collections -/

/-- The numbers that some numbers lead to, given where each leads in one step, after those that were
met before. Fuel bounds the number of steps. -/
def reached (next : Nat → List Nat) : Nat → List Nat → List Nat → List Nat
  | 0, _, met => met
  | _, [], met => met
  | fuel + 1, n :: todo, met =>
    if met.contains n then reached next fuel todo met
    else reached next fuel (next n ++ todo) (met ++ [n])

/-! ### All collections -/

/-- The values of the collections that are settled. -/
abbrev Settled := Array (Option Value)

namespace Settled

/-- The value of a collection. -/
def get? (s : Settled) (number : Nat) : Option Value := s.getD number none

/-- The number of collections that are settled. -/
def count (s : Settled) : Nat := (s.filter Option.isSome).size

/-- Settles a collection if all that it holds are settled. -/
def advance (cs : Array Collection) (s : Settled) (number : Nat) : Settled :=
  match s.get? number with
  | some _ => s
  | none => s.setIfInBounds number ((cs.getD number default).value? s.get?)

/-- Settles what can be settled, the last collections first: most hold only later ones. -/
def pass (cs : Array Collection) (s : Settled) : Settled :=
  (List.range cs.size).reverse.foldl (advance cs) s

/-- The collections in one that are not settled. -/
def waiting (cs : Array Collection) (s : Settled) (number : Nat) : List Nat :=
  (cs.getD number default).held.filter fun n => (s.get? n).isNone

/-- The collections that are not settled and to which one leads. What a collection holds is looked at
twice at most. -/
def beyond (cs : Array Collection) (s : Settled) (number : Nat) : List Nat :=
  let steps := cs.foldl (fun n c => n + 2 * c.held.length) 1
  reached (waiting cs s) steps (waiting cs s number) []

/-- All that a collection leads to leads back to it. -/
def isTied (cs : Array Collection) (s : Settled) (number : Nat) : Bool :=
  (s.get? number).isNone && (beyond cs s number).all fun n => (beyond cs s n).contains number

/-- Makes collections that hold each other the strands of a knot. -/
def tie (cs : Array Collection) (s : Settled) (members : List Nat) : Settled :=
  let known (number : Nat) : Option Value :=
    if members.contains number then some (.link (members.idxOf number)) else s.get? number
  let strands := members.map fun n => ((cs.getD n default).value? known).getD .null
  members.foldl (fun s n => s.setIfInBounds n (some (.knot strands (members.idxOf n)))) s

/-- Settles all collections. Every round settles one at least; fuel is their number. -/
def settle (cs : Array Collection) : Nat → Settled → Settled
  | 0, s => s
  | fuel + 1, s =>
    let next := pass cs s
    if next.count = cs.size then next
    else if s.count < next.count then settle cs fuel next
    else
      match (List.range cs.size).find? (isTied cs next) with
      | some n => settle cs fuel (tie cs next (beyond cs next n))
      | none => next

end Settled

/-- The value of a part, given all collections. -/
def Part.toValue (cs : Array Collection) (p : Part) : Value :=
  let settled := Settled.settle cs cs.size (Array.replicate cs.size none)
  (p.value? settled.get?).getD .null

end SubmissionRouting.Yaml
