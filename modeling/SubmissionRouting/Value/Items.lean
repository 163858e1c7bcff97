import SubmissionRouting.Value.Mapping

/-! # The items of a value

Wherever a sequence is expected, any collection may stand, and a text stands for its characters and a
mapping for its keys.

* `Value.items`: the items of a value.
* `Value.sequence?`: the items of a list or of a tuple; some rules take only these two as sequences.
* `Value.toMapping`: a mapping, or a sequence of pairs taken as one. -/

namespace SubmissionRouting.Value

/-- The items of a value. -/
def items (v : Value) : Except Misuse (List Value) :=
  match v.opened with
  | list vs => .ok vs
  | tuple vs => .ok vs
  | set vs => .ok vs
  | map es => .ok (es.map (·.1))
  | text s => .ok (s.toList.map fun c => text (String.singleton c))
  | _ => .error .notIterable

/-- The items of a list or of a tuple. -/
def sequence? (v : Value) : Option (List Value) :=
  match v.opened with
  | list vs => some vs
  | tuple vs => some vs
  | _ => none

/-- A value as a list: nothing has no items, a list, tuple or set has its own, and any other value is
a single item. -/
def asList (v : Value) : List Value :=
  match v.opened with
  | null => []
  | list vs => vs
  | tuple vs => vs
  | set vs => vs
  | _ => [v]

/-- The texts that values are; no other value can stand among them. -/
def textsOf (vs : List Value) : Except Misuse (List String) :=
  vs.mapM fun v =>
    match v with
    | text s => .ok s
    | _ => .error .notText

/-- Puts the pair that a value holds into a mapping. -/
def putPair (m : Mapping Value) (pair : Value) : Except Misuse (Mapping Value) := do
  match ← pair.items with
  | [k, v] => let key ← k.asKey; pure (Mapping.put m key v)
  | _ => .error .notAPair

/-- A mapping, or a sequence of pairs taken as one. -/
def toMapping (v : Value) : Except Misuse (Mapping Value) :=
  match v.opened with
  | map es => .ok es
  | _ => do (← v.items).foldlM putPair []

end SubmissionRouting.Value
