import FieldAccess.Yaml.Event

/-!
# YAML documents

A document is a tree of scalars, sequences and mappings. A node may have an anchor, and a reference
to that anchor stands for the node. As far as a text follows the rules its document is known; the
collections that are open where the text is at fault are not closed.

## Main definitions

* `Node` – the trees.
* `Document` – a document with its anchors.
* `Document.ofText` – the first document of a text.

## Design notes

An anchor is known by a number. The name of an anchor counts once, however often it is given: the
number of a new anchor is the number of names so far, so a name that is given again shares its
number with the next new name, and both then stand for the node that comes last.
-/

namespace FieldAccess.Yaml

/-- A node of a document. -/
inductive Node where
  /-- The text is at fault here. -/
  | broken
  | scalar (tag : Option Tag) (style : ScalarStyle) (text : String)
  | reference (anchor : Nat)
  | list (tag : Option Tag) (items : List Node) (closed : Bool)
  | table (tag : Option Tag) (entries : List (Node × Node)) (closed : Bool)
  deriving Repr, Inhabited

/-- A part of a document in the order of the text. -/
inductive Part where
  | scalar (tag : Option Tag) (style : ScalarStyle) (text : String)
  | reference (anchor : Nat)
  | openList (tag : Option Tag)
  | openTable (tag : Option Tag)
  | close
  deriving Repr, DecidableEq, Inhabited

namespace Node

/-- Puts keys and values together. A key without a value has lost it to a fault. -/
def pairs : List Node → List (Node × Node)
  | [] => []
  | [key] => [(key, .broken)]
  | key :: value :: rest => (key, value) :: pairs rest

/-- Puts a part in front of what follows it. What follows is given by the nodes on the level of the
part and, in turn, on the levels around it. On the outermost level are the nodes in collections
that are not closed. -/
def prepend : Part → List (List Node) → List (List Node)
  | .scalar tag style text, level :: outer => (.scalar tag style text :: level) :: outer
  | .reference anchor, level :: outer => (.reference anchor :: level) :: outer
  | .openList tag, [level] => [[.list tag level false]]
  | .openList tag, level :: around :: outer => (.list tag level true :: around) :: outer
  | .openTable tag, [level] => [[.table tag (pairs level) false]]
  | .openTable tag, level :: around :: outer => (.table tag (pairs level) true :: around) :: outer
  | .close, levels => [] :: levels
  | _, [] => []

/-- The node with which parts of a document start. -/
def ofParts (parts : List Part) : Node :=
  match parts.foldr prepend [[]] with
  | (node :: _) :: _ => node
  | _ => .broken

mutual

/-- Whether the text of the node is without fault. -/
def isIntact : Node → Bool
  | .broken => false
  | .scalar .. | .reference _ => true
  | .list _ items closed => areIntact items && closed
  | .table _ entries closed => entriesIntact entries && closed

/-- Whether the texts of all items are without fault. -/
def areIntact : List Node → Bool
  | [] => true
  | item :: rest => item.isIntact && areIntact rest

/-- Whether the texts of all keys and values are without fault. -/
def entriesIntact : List (Node × Node) → Bool
  | [] => true
  | (key, value) :: rest => key.isIntact && value.isIntact && entriesIntact rest

end

end Node

/-- A document. -/
structure Document where
  root : Node
  /-- The nodes that anchors stand for. -/
  anchors : List (Nat × Node) := []
  /-- The fault of the text, which ends the document or comes after it. -/
  fault : Option SyntaxFault := none

namespace Document

/-- What comes after the parts of a document. -/
inductive After where
  /-- The document is not closed. -/
  | nothing
  | unknownAnchor (place : Mark)
  /-- The document is closed, and events follow. -/
  | events (rest : List Event)

/-- The parts of a document up to its end, the positions of its anchors, the latest first, and what
follows. `names` are the anchors so far. -/
def partsFrom (names : List (String × Nat)) (anchors : List (Nat × Nat)) (position : Nat) :
    List Event → List Part × List (Nat × Nat) × After
  | [] => ([], anchors, .nothing)
  | event :: rest =>
    let named (properties : Properties) : List (String × Nat) × List (Nat × Nat) :=
      match properties.anchor with
      | none => (names, anchors)
      | some name =>
        let id := names.length
        (if (names.lookup name).isSome
          then names.map fun entry => if entry.1 = name then (name, id) else entry
          else (name, id) :: names,
         (id, position) :: anchors)
    match event with
    | .documentStart => partsFrom names anchors position rest
    | .documentEnd => ([], anchors, .events rest)
    | .alias name place =>
      match names.lookup name with
      | none => ([], anchors, .unknownAnchor place)
      | some id =>
        let (parts, anchors, after) := partsFrom names anchors (position + 1) rest
        (.reference id :: parts, anchors, after)
    | .scalar properties style text =>
      let (names, anchors) := named properties
      let (parts, anchors, after) := partsFrom names anchors (position + 1) rest
      (.scalar properties.tag style text :: parts, anchors, after)
    | .sequenceStart properties =>
      let (names, anchors) := named properties
      let (parts, anchors, after) := partsFrom names anchors (position + 1) rest
      (.openList properties.tag :: parts, anchors, after)
    | .mappingStart properties =>
      let (names, anchors) := named properties
      let (parts, anchors, after) := partsFrom names anchors (position + 1) rest
      (.openTable properties.tag :: parts, anchors, after)
    | .sequenceEnd | .mappingEnd =>
      let (parts, anchors, after) := partsFrom names anchors (position + 1) rest
      (.close :: parts, anchors, after)

/-- The document of a text without content. -/
def empty : Document := { root := .scalar none .plain "" }

/-- The document of a written node. -/
def ofNode (node : Node) : Document := { root := node }

/-- The fault of a text, by what comes after its first document and by the fault that ends its
events. Whatever follows the end of a document starts a second one. -/
def faultAfter (after : After) (fault : Option SyntaxFault) : Option SyntaxFault :=
  match after with
  | .nothing => fault
  | .unknownAnchor place => some (.unknownAnchor place)
  | .events rest => if rest.isEmpty && fault.isNone then none else some .secondDocument

/-- The first document of events; the fault is the one that ends them. -/
def ofEvents (events : List Event) (fault : Option SyntaxFault) : Document :=
  if events.isEmpty && fault.isNone then empty
  else
    let (parts, anchors, after) := partsFrom [] [] 0 events
    { root := Node.ofParts parts
      anchors := anchors.map fun (id, position) => (id, Node.ofParts (parts.drop position))
      fault := faultAfter after fault }

/-- The first document of a text. -/
def ofText (text : String) : Document :=
  let (events, fault) := Event.ofText text
  ofEvents events fault

end Document

end FieldAccess.Yaml
