import SubmissionRouting.Yaml.Node

/-! # Merging mappings

A mapping takes over the entries of the mappings under its merge keys. They stand before its own
entries, so that its own count more; of a list of mappings the earlier count more. Mappings are merged
in their place in the table of nodes, so one that is used twice is merged once, and one that is under
a merge key inside itself gives what it has at that time.

* `takeMerge?`: the first merge key of a mapping.
* `Merge.entries`: merges a mapping, and gives all its entries. -/

namespace SubmissionRouting.Yaml

/-- What stands under the first merge key of a mapping, and the other entries. -/
def takeMerge? (nodes : Nodes) : List Entry → Option (Nat × List Entry)
  | [] => none
  | e :: es =>
    if (nodeAt nodes e.1).kind = some .merge then some (e.2, es)
    else (takeMerge? nodes es).map fun found => (found.1, e :: found.2)

/-- The number of merge keys of all mappings. -/
def mergeKeyCount (nodes : Nodes) : Nat :=
  nodes.foldl (fun n node =>
    match node.content with
    | .map es => n + es.countP fun e => (nodeAt nodes e.1).kind = some .merge
    | _ => n) 0

namespace Merge

/-- A step that changes nodes. -/
abbrev Step := StateT Nodes Result

/-- The text makes no sense as YAML. -/
def reject {α : Type} : Step α := throw (.payload .invalidYaml)

/-- The entries of the mapping at a place. -/
def own (place : Nat) : Step (List Entry) := do
  match (nodeAt (← get) place).content with
  | .map es => pure es
  | _ => reject

/-- The mapping at a place has other entries. -/
def put (place : Nat) (es : List Entry) : Step Unit :=
  modify fun nodes => nodes.modify place fun n => { n with content := .map es }

/-- A default key is a text, that of its indicator. -/
def settleKey (nodes : Nodes) (place : Nat) : Nodes :=
  if (nodeAt nodes place).kind = some .default then
    nodes.modify place fun n => { n with kind := some .text }
  else nodes

/-- Settles the keys of entries. -/
def settleKeys (es : List Entry) : Step Unit :=
  modify fun nodes => es.foldl (fun nodes e => settleKey nodes e.1) nodes

/-- Merges the mapping at a place, given the entries that it has taken over already, and gives all its
entries. Every round takes one merge key away for good. Fuel is the number of merge keys, and one
more. -/
def entriesAfter (taken : List Entry) (place : Nat) : Nat → Step (List Entry)
  | 0 => reject
  | fuel + 1 => do
    let es ← own place
    match takeMerge? (← get) es with
    | some (source, others) =>
      put place others
      let more ←
        match (nodeAt (← get) source).content with
        | .map _ => entriesAfter [] source fuel
        | .list items => do
          let parts ← items.mapM fun item => entriesAfter [] item fuel
          pure parts.reverse.flatten
        | .scalar _ => reject
      entriesAfter (taken ++ more) place fuel
    | none =>
      settleKeys es
      if !taken.isEmpty then put place (taken ++ es)
      pure (taken ++ es)

/-- Merges the mapping at a place, and gives all its entries. There are at most so many merge keys. -/
def entries (mergeKeys place : Nat) : Step (List Entry) := entriesAfter [] place (mergeKeys + 1)

end Merge

end SubmissionRouting.Yaml
