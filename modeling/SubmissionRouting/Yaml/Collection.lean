import SubmissionRouting.Yaml.Merge
import SubmissionRouting.Yaml.Scalars
import SubmissionRouting.Value.Mapping

/-! # The collections of a document

The nodes of a document amount to values that hold no others and to collections. A collection has a
number, and its parts name other collections by theirs, so that it can be used twice or hold itself.

What a collection holds is only read after all that stands beside it. So of several faults the one at
the least depth is reported, and among those the first.

* `Part`: a value, or a collection by its number.
* `Collection`: what a collection holds.
* `Build.part`: what a node amounts to.
* `Build.contents`: what the collection at a node holds.
* `Document.collections`: what the outermost node amounts to, and all collections. -/

namespace SubmissionRouting.Yaml

/-- A value that holds no others, or a collection by its number. -/
inductive Part where
  | value (v : Value)
  | collection (number : Nat)

instance : Inhabited Part := ⟨.value .null⟩

/-- What a collection holds. -/
inductive Collection where
  /-- That of the node at a place, which is still to be read. -/
  | awaited (place : Nat)
  | list (items : List Part)
  | tuple (items : List Part)
  | set (members : List Value)
  | map (entries : Mapping Part)

instance : Inhabited Collection := ⟨.list []⟩

/-- The text of a scalar; a mapping has the text of what stands under its default key. Fuel is the
number of nodes. -/
def nodeText? (nodes : Nodes) : Nat → Nat → Option String
  | 0, _ => none
  | fuel + 1, place =>
    match (nodeAt nodes place).content with
    | .scalar s => some s
    | .list _ => none
    | .map es =>
      (es.find? fun e => (nodeAt nodes e.1).kind = some .default).bind fun e =>
        nodeText? nodes fuel e.2

/-- The nodes and the number of their merge keys, what the nodes that were met amount to, the collections
by their numbers, and the number of the source in which they are written. -/
structure Build where
  nodes : Nodes
  mergeKeys : Nat
  parts : Array (Option Part)
  collections : Array Collection
  source : Nat

namespace Build

/-- A step of building. -/
abbrev Step := StateT Build Result

/-- The text makes no sense as YAML. -/
def reject {α : Type} : Step α := throw (.payload .invalidYaml)

/-- One more collection. -/
def add (c : Collection) : Step Part := do
  let number := (← get).collections.size
  modify fun b => { b with collections := b.collections.push c }
  pure (.collection number)

/-- The value of a node that is no collection. A day must be written as a scalar itself. -/
def scalar (place : Nat) : Step Value := do
  let b ← get
  let n := nodeAt b.nodes place
  match n.kind, nodeText? b.nodes b.nodes.size place with
  | some kind, some s =>
    match n.content, kind, scalarValue ⟨b.source, place⟩ kind s with
    | .map _, .stamp, _ => throw (.misuse .notText)
    | _, _, some v => liftM v
    | _, _, none => reject
  | _, _ => reject

/-- What the node at a place amounts to. -/
def part (place : Nat) : Step Part := do
  match (← get).parts.getD place none with
  | some p => pure p
  | none =>
    let p ←
      match (nodeAt (← get).nodes place).kind with
      | some .list | some .map | some .set | some .orderedMap | some .pairs => add (.awaited place)
      | _ => Part.value <$> scalar place
    modify fun b => { b with parts := b.parts.setIfInBounds place (some p) }
    pure p

/-- A key, which must not be a collection. -/
def key (place : Nat) : Step Value := do
  match ← part place with
  | .value v => pure v
  | .collection _ => reject

/-- The entries of a mapping with those that it takes over. -/
def entries (place : Nat) : Step (Mapping Part) := do
  let b ← get
  let (es, nodes) ← (Merge.entries b.mergeKeys place).run b.nodes
  set { b with nodes := nodes }
  es.foldlM (fun m e => do
    let k ← key e.1
    let v ← part e.2
    pure (Mapping.put m k v)) []

/-- The pair that a mapping with one entry stands for. -/
def pair (place : Nat) : Step Part := do
  match (nodeAt (← get).nodes place).content with
  | .map [e] =>
    let k ← part e.1
    let v ← part e.2
    add (.tuple [k, v])
  | _ => reject

/-- What the collection at a node holds. -/
def contents (place : Nat) : Step Collection := do
  let n := nodeAt (← get).nodes place
  match n.kind, n.content with
  | some .list, .list items => Collection.list <$> items.mapM part
  | some .map, .map _ => Collection.map <$> entries place
  | some .set, .map _ => (fun es => Collection.set (Mapping.keys es)) <$> entries place
  | some .orderedMap, .list items => Collection.list <$> items.mapM pair
  | some .pairs, .list items => Collection.list <$> items.mapM pair
  | _, _ => reject

/-- Reads what the collection with a number holds, if that is still to be read. -/
def fill (number : Nat) : Step Unit := do
  match (← get).collections[number]? with
  | some (.awaited place) =>
    let c ← contents place
    modify fun b => { b with collections := b.collections.setIfInBounds number c }
  | _ => pure ()

/-- Fills the collections from a number on, and in later rounds those that are met meanwhile. Fuel
bounds the number of rounds. -/
def fillFrom (first : Nat) : Nat → Step Unit
  | 0 => pure ()
  | fuel + 1 => do
    let count := (← get).collections.size
    if first < count then
      (List.range' first (count - first)).forM fill
      fillFrom count fuel

end Build

/-- What the outermost node of a document amounts to, and all collections. -/
def Document.collections (d : Document) (source : Nat) : Result (Part × Array Collection) := do
  let start : Build := ⟨d.nodes, mergeKeyCount d.nodes, Array.replicate d.nodes.size none, #[], source⟩
  let steps : Build.Step Part := do
    let root ← Build.part d.root
    Build.fillFrom 0 (d.nodes.size + 2)
    pure root
  let (root, b) ← steps.run start
  pure (root, b.collections)

end SubmissionRouting.Yaml
