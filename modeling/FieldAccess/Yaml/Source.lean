import FieldAccess.Format.Codec
import FieldAccess.Text.Quoted
import FieldAccess.Yaml.Document
import FieldAccess.Yaml.Plain

/-!
# YAML as a source

A YAML document can be looked into. Every scalar can serve as a text, whatever it is spelled like;
only where another kind of value is wanted its spelling decides. A value that is not written stands
for an empty map as well as for an absent value.

## Main definitions

* `Yaml.source` – documents with the given anchors, in a text with the given fault.
* `Yaml.decode` – the value that a text describes.
-/

namespace FieldAccess.Yaml

open Format

/-- The tag of a kind of value that all documents know. -/
def standardTag (name : String) : String := "tag:yaml.org,2002:" ++ name

/-- What is said about an integer that was found. -/
def integerFound (n : Int) : String :=
  let width :=
    if n < -(Nat.pow 2 63 : Nat) then " as i128" else if Nat.pow 2 64 ≤ n then " as u128" else ""
  "integer " ++ ticked (toString n) ++ width

/-- What is said about a text that was found. -/
def textFound (text : String) : String := "string " ++ Text.quoted text

/-- What is said about a truth value that was found. -/
def flagFound (b : Bool) : String := "boolean " ++ ticked (if b then "true" else "false")

namespace PlainValue

/-- What is said about a plain scalar that was found. -/
def found : PlainValue → String
  | null => "unit value"
  | flag b => flagFound b
  | integer n => integerFound n
  | decimal digits => "floating point " ++ ticked digits
  | text s => textFound s

end PlainValue

/-- Why a scalar is not of the kind expected. A tag of a standard kind that does not fit the text is
a cause of its own. -/
def scalarMismatch (tag : Option Tag) (style : ScalarStyle) (text expected : String) : Cause :=
  let plain := .mismatch (PlainValue.ofText text).found expected
  let written := if style = .plain then plain else .mismatch (textFound text) expected
  match tag.map Tag.text with
  | none => written
  | some tag =>
    if tag = standardTag "bool" then
      match flag? text with
      | some b => .mismatch (flagFound b) expected
      | none => .unfit (textFound text) "a boolean"
    else if tag = standardTag "int" then
      match integer? text.toList with
      | some n => .mismatch (integerFound n) expected
      | none => .unfit (textFound text) "an integer"
    else if tag = standardTag "float" then
      match decimal? text.toList with
      | some digits => .mismatch ("floating point " ++ ticked digits) expected
      | none => .unfit (textFound text) "a float"
    else if tag = standardTag "null" then
      if isNull text then .mismatch "unit value" expected else .unfit (textFound text) "null"
    else if tag.startsWith "!" then written
    else .mismatch (textFound text) expected

/-- The variant that a tag chooses. -/
def variantOf? (tag : Option Tag) : Option String := do
  let tag ← tag.filter Tag.isLegible
  match tag.text.toList with
  | ['!'] => return tag.text
  | '!' :: name => return String.ofList name
  | _ => none

namespace Node

/-- Why a node is not of the kind expected. `malformed` is the fault of the text. -/
def mismatch (malformed : Cause) (expected : String) : Node → Cause
  | broken => malformed
  | scalar tag style text => scalarMismatch tag style text expected
  | reference _ => malformed
  | list .. => .mismatch "sequence" expected
  | table .. => .mismatch "map" expected

/-- The reading of a node of another kind than the one expected. -/
def other (malformed : Cause) (expected : String) (node : Node) : Reading α :=
  fail (node.mismatch malformed expected)

/-- The node that a reference stands for; other nodes stand for themselves. -/
def resolve (anchors : List (Nat × Node)) : Node → Node
  | reference anchor => (anchors.lookup anchor).getD broken
  | node => node

/-- Whether a node is a scalar that is not written. -/
def isUnwritten : Node → Bool
  | scalar _ .plain text => text.isEmpty
  | _ => false

/-- Whether a scalar may spell a value of the kind of a standard tag. -/
def spells (name : String) : Node → Option String
  | scalar tag style text =>
    let isNamed := tag.map Tag.text = some (standardTag name)
    if style = .plain || (style = .literal && isNamed) then some text else none
  | _ => none

/-- The fault at the end of what is not closed. -/
def ending (malformed : Cause) (closed : Bool) : Option Fault :=
  if closed then none else some (.here malformed)

/-- The entries of a mapping up to the first key that is no text; `expected` names the keys. -/
def entries (malformed : Cause) (anchors : List (Nat × Node)) (expected : String) (closed : Bool) :
    List (Node × Node) → Listing (String × Node)
  | [] => ⟨[], ending malformed closed⟩
  | (key, value) :: rest =>
    match key.resolve anchors with
    | scalar _ _ text =>
      let listing := entries malformed anchors expected closed rest
      { listing with items := (text, value) :: listing.items }
    | key => ⟨[], some (.here (key.mismatch malformed expected))⟩

/-- The entries of a node that is a mapping or not written. -/
def tableOf (malformed : Cause) (anchors : List (Nat × Node)) (expected keys : String)
    (node : Node) : Reading (Listing (String × Node)) :=
  match node.resolve anchors with
  | table _ items closed => .ok (entries malformed anchors keys closed items)
  | node => if node.isUnwritten then .ok ⟨[], none⟩ else node.other malformed expected

/-- Whether a scalar stands for an absent value. -/
def isAbsent (tag : Option Tag) (style : ScalarStyle) (text : String) : Reading Bool :=
  if style ≠ .plain then .ok false
  else
    match tag with
    | none => .ok (text.isEmpty || isNull text)
    | some tag =>
      if tag.text ≠ standardTag "null" then .ok false
      else if isNull text then .ok true
      else .error { path := [], cause := .unfit (textFound text) "null", outward := true }

/-- Reads a node that holds no value, the content of a variant that is chosen by a tag. -/
def unit (malformed : Cause) (node : Node) : Reading Unit :=
  match node with
  | scalar tag style text => do
    if ← isAbsent tag style text then return ()
    fail (.unfit (textFound text) "null")
  | node => node.other malformed "unit"

end Node

open Node in
/-- Documents with the given anchors, in a text with the given fault. -/
def source (malformed : Cause) (anchors : List (Nat × Node)) : Source where
  Node := Node
  text expected node :=
    match node.resolve anchors with
    | .scalar _ _ text => .ok text
    | node => node.other malformed expected
  flag node :=
    let node := node.resolve anchors
    match (node.spells "bool").bind flag? with
    | some b => .ok b
    | none => node.other malformed "a boolean"
  natural bound name node :=
    let node := node.resolve anchors
    match (node.spells "int").bind fun text => unsigned? text.toList with
    | some n =>
      if n ≤ bound then .ok n
      else if n < Nat.pow 2 64 then fail (.unfit (integerFound n) name)
      else node.other malformed name
    | none => node.other malformed name
  optional node :=
    match node.resolve anchors with
    | .scalar tag style text => do
      if ← isAbsent tag style text then return none
      return some (.scalar tag style text)
    | .broken => fail malformed
    | node => .ok (some node)
  list node :=
    match node.resolve anchors with
    | .list _ items closed => .ok ⟨items, ending malformed closed⟩
    | node => if node.isUnwritten then .ok ⟨[], none⟩ else node.other malformed "a sequence"
  table node := node.tableOf malformed anchors "a map" "a string"
  record expected node := do
    return .named (← node.tableOf malformed anchors expected "field identifier")
  variant node :=
    match node.resolve anchors with
    | .scalar tag style text =>
      match variantOf? tag with
      | some name => .ok { name, content := some (.scalar none style text), outward := true }
      | none => .ok { name := text }
    | .list tag items closed =>
      match variantOf? tag with
      | some name => .ok { name, content := some (.list none items closed), outward := true }
      | none => fail (.mismatch "sequence" "a YAML tag starting with '!'")
    | .table tag items closed =>
      match variantOf? tag with
      | some name => .ok { name, content := some (.table none items closed), outward := true }
      | none => fail (.mismatch "map" "a YAML tag starting with '!'")
    | _ => fail malformed
  unit node := ((node.resolve anchors).unit malformed).mapError Fault.outwards
  variantRecord
    | some node => node.tableOf malformed anchors "struct variant" "field identifier"
    | none => fail (.mismatch "unit variant" "struct variant")
  skip node := if node.isIntact then .ok () else fail malformed
  surplus length := .here (.length length "fewer elements in sequence")

/-- The cause that the text of a document breaks the rules of the format. Without a fault in the
text no node is broken, and the cause is not met. -/
def Document.malformed (document : Document) : Cause :=
  .malformed ((document.fault.getD .secondDocument).message)

/-- The value that a document describes. -/
def Document.decode (codec : Codec α) (document : Document) : Reading α := do
  let value ← codec.read (source document.malformed document.anchors) document.root
  if document.fault.isNone then return value else fail document.malformed

/-- The value that a text describes. -/
def decode (codec : Codec α) (text : String) : Reading α := (Document.ofText text).decode codec

end FieldAccess.Yaml
