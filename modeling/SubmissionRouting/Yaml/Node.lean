import SubmissionRouting.Yaml.Token
import SubmissionRouting.Yaml.Plain

/-! # YAML nodes

The tokens of a text make nodes: scalars, lists and mappings, each with the kind that its tag or its
form gives it. A node can be given a name by an anchor, and an alias stands for the node with its
name, even inside that node. So the nodes of a text are a table, in which the parts of a collection
are given by their places. A text holds at most one document.

* `Node`: a node.
* `Document`: the nodes of a text, and the outermost one.
* `Compose.node`: reads a node.
* `document?`: the document of a text, if there is one. -/

namespace SubmissionRouting.Yaml

/-- The key and the value of an entry, by their places. -/
abbrev Entry := Nat × Nat

/-- What a node holds. -/
inductive Content where
  | scalar (text : String)
  | list (items : List Nat)
  | map (entries : List Entry)

/-- A node. It has a kind if its tag is a standard one. -/
structure Node where
  kind : Option Kind
  content : Content

instance : Inhabited Node := ⟨⟨none, .scalar ""⟩⟩

/-- The nodes of a text by their places. -/
abbrev Nodes := Array Node

/-- The nodes of a text, and the place of the outermost one. -/
structure Document where
  nodes : Nodes
  root : Nat

/-- The node at a place. -/
def nodeAt (nodes : Nodes) (place : Nat) : Node := nodes.getD place default

/-! ### Tags -/

/-- The names that the handles of tags stand for. -/
abbrev Handles := List (String × String)

/-- The handles that are known without a directive. -/
def defaultHandles : Handles := [("!", "!"), ("!!", standardPrefix)]

/-- A tag that leaves the kind of the node to its form. -/
def openTag : String := "!"

/-- The kind of a scalar: that of its tag, or that of what it denotes. -/
def scalarKind (tag : Option String) (text : String) (plain : Bool) : Option Kind :=
  match tag with
  | some t => if t = openTag then some (plainKind text) else Kind.ofTag? t
  | none => some (if plain then plainKind text else .text)

/-- The kind of a list or mapping: that of its tag, or else its own. -/
def collectionKind (tag : Option String) (own : Kind) : Option Kind :=
  match tag with
  | some t => if t = openTag then some own else Kind.ofTag? t
  | none => some own

/-- The node that stands where there is none. -/
def emptyNode : Node := ⟨some .null, .scalar ""⟩

/-! ### Reading nodes -/

/-- The tokens that are left, why they end, the nodes so far, and the places of those with names. -/
structure Compose where
  tokens : List Token
  ending : Option Fault
  nodes : Nodes
  anchors : List (String × Nat)

namespace Compose

/-- A step that reads some tokens. -/
abbrev Step := StateT Compose Result

/-- The text is not well formed. -/
def reject {α : Type} : Step α := throw (.payload .invalidYaml)

/-- The next token. -/
def look : Step Token := do
  let c ← get
  match c.tokens, c.ending with
  | t :: _, _ => pure t
  | [], some e => throw e
  | [], none => pure .streamEnd

/-- Passes over a token. -/
def skip : Step Unit := modify fun c => { c with tokens := c.tokens.drop 1 }

/-- Passes over a token if it comes next. -/
def skipIf (t : Token) : Step Bool := do
  if (← look) = t then
    skip
    pure true
  else pure false

/-- One more node. -/
def add (n : Node) : Step Nat := do
  let place := (← get).nodes.size
  modify fun c => { c with nodes := c.nodes.push n }
  pure place

/-- What the node at a place holds is known. -/
def fill (place : Nat) (content : Content) : Step Unit :=
  modify fun c => { c with nodes := c.nodes.modify place fun n => { n with content := content } }

/-- Gives a name to the node at a place. -/
def bind (name : Option String) (place : Nat) : Step Unit :=
  match name with
  | none => pure ()
  | some name => modify fun c => { c with anchors := (name, place) :: c.anchors }

/-- A scalar with a name. -/
def scalar (name : Option String) (kind : Option Kind) (text : String) : Step Nat := do
  let place ← add ⟨kind, .scalar text⟩
  bind name place
  pure place

/-- A collection with a name. The name stands for it already where its parts are read. -/
def collection {α : Type} (name : Option String) (kind : Option Kind) (build : α → Content)
    (parts : Step α) : Step Nat := do
  let place ← add ⟨kind, .list []⟩
  bind name place
  fill place (build (← parts))
  pure place

/-- The name before a node, if there is one. -/
def anchor? : Step (Option String) := do
  match ← look with
  | .anchor name =>
    skip
    pure (some name)
  | _ => pure none

/-- The handle and the name of the tag before a node, if there is one. -/
def tag? : Step (Option (Option String × String)) := do
  match ← look with
  | .tag handle name =>
    skip
    pure (some (handle, name))
  | _ => pure none

/-- The name and the tag before a node, in either order. -/
def properties : Step (Option String × Option (Option String × String)) := do
  match ← anchor? with
  | some name => pure (some name, ← tag?)
  | none =>
    match ← tag? with
    | some tag => pure (← anchor?, some tag)
    | none => pure (none, none)

/-- The whole name of a tag; its handle must be known. -/
def resolve (handles : Handles) (tag : Option (Option String × String)) : Step (Option String) :=
  match tag with
  | none => pure none
  | some (none, name) => pure (some name)
  | some (some handle, name) =>
    match handles.lookup handle with
    | some start => pure (some (start ++ name))
    | none => reject

/-- A name may be given only once. -/
def checkFresh (name : Option String) : Step Unit := do
  match name with
  | some name => if ((← get).anchors.lookup name).isSome then reject
  | none => pure ()

/-- Where a node stands: whether it may be a list or mapping outside of brackets, and whether the
items of a list may start without further indentation. -/
inductive Position where
  | flow
  | block
  | blockValue
deriving DecidableEq

/-- The tokens at which a key or value outside of brackets is left out. -/
def endsBlockPart (t : Token) : Bool := t = .key || t = .value || t = .blockEnd

mutual

/-- Reads a node. -/
def node (handles : Handles) (position : Position) : Nat → Step Nat
  | 0 => reject
  | fuel + 1 => do
    match ← look with
    | .alias name =>
      skip
      match (← get).anchors.lookup name with
      | some place => pure place
      | none => reject
    | _ =>
      let (name, tag) ← properties
      content handles position name (← resolve handles tag) fuel

/-- Reads a node after its name and its tag. -/
def content (handles : Handles) (position : Position) (name tag : Option String) : Nat → Step Nat
  | 0 => reject
  | fuel + 1 => do
    let t ← look
    checkFresh name
    let list := collection name (collectionKind tag .list) Content.list
    let map := collection name (collectionKind tag .map) Content.map
    match t with
    | .blockEntry =>
      if position = .blockValue then list (looseItems handles fuel) else empty name tag
    | .scalar text plain =>
      skip
      scalar name (scalarKind tag text plain) text
    | .flowListStart =>
      skip
      list (flowItems handles true fuel)
    | .flowMapStart =>
      skip
      map (flowEntries handles true fuel)
    | .blockListStart =>
      if position = .flow then empty name tag
      else
        skip
        list (blockItems handles fuel)
    | .blockMapStart =>
      if position = .flow then empty name tag
      else
        skip
        map (blockEntries handles fuel)
    | _ => empty name tag

/-- A node that is left out; it must have a name or a tag. -/
def empty (name tag : Option String) : Step Nat :=
  if name.isNone && tag.isNone then reject else scalar name (scalarKind tag "" true) ""

/-- Reads the items of a list outside of brackets. -/
def blockItems (handles : Handles) : Nat → Step (List Nat)
  | 0 => reject
  | fuel + 1 => do
    if ← skipIf .blockEntry then
      let t ← look
      let first ←
        if t = .blockEntry || t = .blockEnd then add emptyNode else node handles .block fuel
      let others ← blockItems handles fuel
      pure (first :: others)
    else if ← skipIf .blockEnd then pure []
    else reject

/-- Reads the items of a list that is not indented further than the mapping around it. -/
def looseItems (handles : Handles) : Nat → Step (List Nat)
  | 0 => reject
  | fuel + 1 => do
    if ← skipIf .blockEntry then
      let t ← look
      let first ←
        if t = .blockEntry || endsBlockPart t then add emptyNode else node handles .block fuel
      let others ← looseItems handles fuel
      pure (first :: others)
    else pure []

/-- Reads a key or value outside of brackets. -/
def blockPart (handles : Handles) : Nat → Step Nat
  | 0 => reject
  | fuel + 1 => do
    if endsBlockPart (← look) then add emptyNode else node handles .blockValue fuel

/-- Reads the entries of a mapping outside of brackets. -/
def blockEntries (handles : Handles) : Nat → Step (List Entry)
  | 0 => reject
  | fuel + 1 => do
    if ← skipIf .key then
      let key ← blockPart handles fuel
      let value ← if ← skipIf .value then blockPart handles fuel else add emptyNode
      let others ← blockEntries handles fuel
      pure ((key, value) :: others)
    else if ← skipIf .blockEnd then pure []
    else reject

/-- Reads a key or value between brackets that end with a token. -/
def flowPart (handles : Handles) (isKey : Bool) (last : Token) : Nat → Step Nat
  | 0 => reject
  | fuel + 1 => do
    let t ← look
    if t = .flowEntry || t = last || (isKey && t = .value) then add emptyNode
    else node handles .flow fuel

/-- Reads the value after a key between brackets that end with a token. -/
def flowValue (handles : Handles) (last : Token) : Nat → Step Nat
  | 0 => reject
  | fuel + 1 => do
    if ← skipIf .value then flowPart handles false last fuel else add emptyNode

/-- Reads the items of a list between brackets. A key with its value is a mapping of its own. -/
def flowItems (handles : Handles) (first : Bool) : Nat → Step (List Nat)
  | 0 => reject
  | fuel + 1 => do
    if ← skipIf .flowListEnd then pure []
    else
      if !first then
        if !(← skipIf .flowEntry) then reject
      if ← skipIf .flowListEnd then pure []
      else
        let item ←
          if ← skipIf .key then
            collection none (some .map) Content.map do
              let key ← flowPart handles true .flowListEnd fuel
              let value ← flowValue handles .flowListEnd fuel
              pure [(key, value)]
          else node handles .flow fuel
        let others ← flowItems handles false fuel
        pure (item :: others)

/-- Reads the entries of a mapping between brackets. -/
def flowEntries (handles : Handles) (first : Bool) : Nat → Step (List Entry)
  | 0 => reject
  | fuel + 1 => do
    if ← skipIf .flowMapEnd then pure []
    else
      if !first then
        if !(← skipIf .flowEntry) then reject
      if ← skipIf .flowMapEnd then pure []
      else
        let entry ←
          if ← skipIf .key then do
            let key ← flowPart handles true .flowMapEnd fuel
            let value ← flowValue handles .flowMapEnd fuel
            pure (key, value)
          else do
            let key ← node handles .flow fuel
            pure (key, ← add emptyNode)
        let others ← flowEntries handles false fuel
        pure (entry :: others)

end

/-! ### Documents -/

/-- Reads the directives before a document. -/
def directives (versioned : Bool) (handles : Handles) : Nat → Step Handles
  | 0 => reject
  | fuel + 1 => do
    match ← look with
    | .version major =>
      skip
      if versioned || major ≠ 1 then reject
      else directives true handles fuel
    | .tagHandle handle name =>
      skip
      if (handles.lookup handle).isSome then reject
      else directives versioned ((handle, name) :: handles) fuel
    | .otherDirective =>
      skip
      directives versioned handles fuel
    | _ => pure (handles ++ defaultHandles)

/-- Passes over the ends of documents. -/
def skipEnds : Nat → Step Unit
  | 0 => pure ()
  | fuel + 1 => do
    if ← skipIf .documentEnd then skipEnds fuel

/-- Nothing but ends of documents may follow; another document is a fault at its start. -/
def finish (fuel : Nat) : Step Unit := do
  skipEnds fuel
  if (← look) ≠ .streamEnd then
    let _ ← directives false [] fuel
    reject

/-- Reads a document with a mark at its start. -/
def explicit (fuel : Nat) : Step (Option Nat) := do
  let handles ← directives false [] fuel
  if !(← skipIf .documentStart) then reject
  let root ←
    match ← look with
    | .version _ | .tagHandle _ _ | .otherDirective | .documentStart | .documentEnd | .streamEnd =>
      add emptyNode
    | _ => node handles .block fuel
  finish fuel
  pure (some root)

/-- Reads the document of a text, if there is one: the place of its outermost node. -/
def document (fuel : Nat) : Step (Option Nat) := do
  match ← look with
  | .streamEnd => pure none
  | .version _ | .tagHandle _ _ | .otherDirective | .documentStart => explicit fuel
  | _ =>
    let root ← node defaultHandles .block fuel
    finish fuel
    pure (some root)

end Compose

/-- The document of a text, if there is one. -/
def document? (s : String) : Result (Option Document) := do
  let ts := tokens s
  let (root, c) ← (Compose.document (8 * ts.tokens.length + 8)).run ⟨ts.tokens, ts.ending, #[], []⟩
  pure (root.map fun place => ⟨c.nodes, place⟩)

end SubmissionRouting.Yaml
