import CmdletForge.Yaml.Event

/-!
# The tree of a YAML document

A document is a tree of nodes with aliases as leaves, and the nodes that its anchors mark. A text
is one document, or none at all; a text that is at fault anywhere, has an alias without an anchor
before it, or goes on with a second document has no tree.

An anchor is known by how many names had been in use before it. A name that is used again counts
anew, so two names may come to share a number: then both stand for the later node.
-/

namespace CmdletForge.Yaml

/-- A node. A `void` stands for a text without a document. -/
inductive Node where
  | scalar (tag : Option Tag) (text : String) (style : ScalarStyle)
  | sequence (tag : Option Tag) (items : List Node)
  | mapping (tag : Option Tag) (entries : List (Node × Node))
  | alias (anchor : Nat)
  | void
deriving Inhabited

/-- A node that an anchor marks; `order` counts the marked nodes by where they start. -/
structure Anchored where
  anchor : Nat
  order : Nat
  node : Node

/-- A document; `size` is the number of its events. -/
structure Document where
  root : Node
  anchored : List Anchored
  size : Nat

/-- The node that an anchor stands for: of several the one that starts last. -/
def Document.target? (document : Document) (anchor : Nat) : Option Node :=
  let later (best : Option Anchored) (a : Anchored) : Option Anchored :=
    if a.anchor = anchor && best.all (·.order < a.order) then some a else best
  (document.anchored.foldl later none).map (·.node)

/-- A collection that is still open, with the number and order of its anchor. -/
inductive Frame where
  | sequence (mark : Option (Nat × Nat)) (tag : Option Tag) (items : List Node)
  | mapping (mark : Option (Nat × Nat)) (tag : Option Tag) (entries : List (Node × Node))
      (key : Option Node)

/-- A tree in the making: the open collections, innermost first, the numbers of anchor names, the
nodes marked so far and how many were started, and the events taken. -/
structure Draft where
  frames : List Frame
  root : Node
  names : List (String × Nat)
  started : Nat
  anchored : List Anchored
  size : Nat

namespace Draft

/-- A tree with nothing in it. -/
def empty : Draft := ⟨[], .void, [], 0, [], 0⟩

/-- Numbers an anchor. -/
def mark (d : Draft) : Option String → Option (Nat × Nat) × Draft
  | none => (none, d)
  | some name =>
    let anchor := d.names.length
    let names := (name, anchor) :: d.names.filter (·.1 ≠ name)
    (some (anchor, d.started), { d with names, started := d.started + 1 })

/-- Remembers a marked node. -/
def record (d : Draft) (mark : Option (Nat × Nat)) (node : Node) : Draft :=
  match mark with
  | none => d
  | some (anchor, order) => { d with anchored := ⟨anchor, order, node⟩ :: d.anchored }

/-- Puts a node where the tree grows. -/
def put (d : Draft) (node : Node) : Draft :=
  match d.frames with
  | [] => { d with root := node }
  | .sequence mark tag items :: outer =>
    { d with frames := .sequence mark tag (items ++ [node]) :: outer }
  | .mapping mark tag entries none :: outer =>
    { d with frames := .mapping mark tag entries (some node) :: outer }
  | .mapping mark tag entries (some key) :: outer =>
    { d with frames := .mapping mark tag (entries ++ [(key, node)]) none :: outer }

/-- Closes the innermost collection. -/
def close (d : Draft) : Draft :=
  match d.frames with
  | [] => d
  | .sequence mark tag items :: outer =>
    let node := Node.sequence tag items
    ({ d with frames := outer }.record mark node).put node
  | .mapping mark tag entries _ :: outer =>
    let node := Node.mapping tag entries
    ({ d with frames := outer }.record mark node).put node

/-- The tree as a document. -/
def finish (d : Draft) : Document := ⟨d.root, d.anchored, d.size⟩

/-- The document that events spell. A text without a document counts as one event. -/
def grow (d : Draft) : List Event → Option Document
  | [] => none
  | event :: rest =>
    let counted := { d with size := d.size + 1 }
    match event with
    | .streamStart => grow d rest
    | .documentStart => grow d rest
    | .streamEnd => some counted.finish
    | .documentEnd => if rest.head? = some .streamEnd then some d.finish else none
    | .alias name =>
      match d.names.lookup name with
      | some anchor => grow (counted.put (.alias anchor)) rest
      | none => none
    | .scalar anchor tag text style =>
      let (mark, d) := counted.mark anchor
      let node := Node.scalar tag text style
      grow ((d.record mark node).put node) rest
    | .sequenceStart anchor tag =>
      let (mark, d) := counted.mark anchor
      grow { d with frames := .sequence mark tag [] :: d.frames } rest
    | .mappingStart anchor tag =>
      let (mark, d) := counted.mark anchor
      grow { d with frames := .mapping mark tag [] none :: d.frames } rest
    | .sequenceEnd => grow counted.close rest
    | .mappingEnd => grow counted.close rest

end Draft

/-- The document of a text. -/
def Document.ofText? (text : String) : Option Document := Draft.empty.grow (eventsOf text)

end CmdletForge.Yaml
