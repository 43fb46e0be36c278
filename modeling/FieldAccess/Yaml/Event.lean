import FieldAccess.Yaml.Token

/-!
# Events of a YAML text

The structure of a YAML text as a sequence of events: the starts and ends of its documents and
collections, its scalars and its references to anchors. The grammar is a machine that looks at one
token at a time; where the tokens do not follow the grammar it stops, and the events up to there
remain.

## Main definitions

* `Event` – the events.
* `Grammar` – the state of the machine.
* `Event.ofText` – the events of a text, and the fault that ends them.
-/

namespace FieldAccess.Yaml

/-- What may be written in front of a node. -/
structure Properties where
  anchor : Option String := none
  tag : Option Tag := none
  deriving Repr, DecidableEq, Inhabited

/-- An event. -/
inductive Event where
  | documentStart
  | documentEnd
  /-- A reference, and the place where it stands. -/
  | alias (name : String) (place : Mark)
  | scalar (properties : Properties) (style : ScalarStyle) (text : String)
  | sequenceStart (properties : Properties)
  | sequenceEnd
  | mappingStart (properties : Properties)
  | mappingEnd
  deriving Repr, DecidableEq, Inhabited

/-- A scalar that is not written. -/
def Event.blank (properties : Properties := {}) : Event := .scalar properties .plain ""

/-- What the grammar expects next. The collections know the place where they start once their first
token is read. -/
inductive Expected where
  /-- A document; only the first one may start without a marker. -/
  | document (first : Bool)
  /-- The node of a document whose start is marked. -/
  | marked
  | node
  | documentEnd
  | blockItem (start : Option Mark)
  /-- An item of a sequence that is as deep as the key before it. -/
  | levelItem
  | blockKey (start : Option Mark)
  | blockValue (start : Mark)
  | flowItem (start : Option Mark)
  | pairKey (start : Mark)
  | pairValue (start : Mark)
  | pairEnd (start : Mark)
  | flowKey (start : Option Mark)
  | flowValue (start : Mark) (empty : Bool)
  deriving Repr, DecidableEq

/-- The state of the grammar. -/
structure Grammar where
  expected : Expected := .document true
  /-- What is expected when the node is complete, the innermost first. -/
  later : List Expected := []
  tokens : List (Token × Mark)
  handles : TagHandles := .standard

namespace Grammar

/-- The result of a step: the events of a part of the text, or its end. -/
inductive Step where
  /-- The tokens end before the step is known. -/
  | cut
  | fault (fault : SyntaxFault)
  | finished
  | event (event : Event) (next : Grammar)

/-- A rule is broken at a place, while a node is read that starts at another. -/
def refuse (problem : Problem) (place : Mark) (activity : Activity) (start : Mark) : Step :=
  .fault (.broken problem place (some (activity, start)))

/-- The state after the next token. -/
def skip (g : Grammar) : Grammar := { g with tokens := g.tokens.drop 1 }

/-- The state in which something else is expected. -/
def expect (g : Grammar) (expected : Expected) : Grammar := { g with expected }

/-- The state after a complete node. -/
def resume (g : Grammar) : Grammar :=
  match g.later with
  | [] => g
  | expected :: later => { g with expected, later }

/-- The state in which something is expected after the node that comes first. -/
def before (g : Grammar) (expected : Expected) : Grammar :=
  { g with later := expected :: g.later }

/-- A scalar that is not written, after which something is expected. -/
def blank (g : Grammar) (expected : Expected) : Step := .event .blank (g.expect expected)

/-- The anchor and the tag in front of a node, in any order. The tag comes with its place. -/
def properties (g : Grammar) : Option String × Option (TagName × Mark) × Grammar :=
  match g.tokens with
  | (.anchor name, _) :: (.tag tag, place) :: tokens =>
    (some name, some (tag, place), { g with tokens })
  | (.anchor name, _) :: tokens => (some name, none, { g with tokens })
  | (.tag tag, place) :: (.anchor name, _) :: tokens =>
    (some name, some (tag, place), { g with tokens })
  | (.tag tag, place) :: tokens => (none, some (tag, place), { g with tokens })
  | _ => (none, none, g)

/-- The content of a node that starts at a place. Collections that are written by indentation are
possible in a `block`, and items at the level of the key when `level` is set. -/
def content (g : Grammar) (properties : Properties) (start : Mark) (block level : Bool) : Step :=
  match g.tokens with
  | [] => .cut
  | (token, place) :: _ =>
    match token with
    | .blockEntry =>
      if level then .event (.sequenceStart properties) (g.expect .levelItem) else missing place
    | .scalar style text =>
      -- The tag that consists of the sign alone says nothing about a scalar.
      let tag := properties.tag.filter (·.text ≠ "!")
      .event (.scalar { properties with tag } style text) g.skip.resume
    | .flowSequenceStart => .event (.sequenceStart properties) (g.expect (.flowItem none))
    | .flowMappingStart => .event (.mappingStart properties) (g.expect (.flowKey none))
    | .blockSequenceStart =>
      if block then .event (.sequenceStart properties) (g.expect (.blockItem none))
      else missing place
    | .blockMappingStart =>
      if block then .event (.mappingStart properties) (g.expect (.blockKey none))
      else missing place
    | _ => missing place
where
  /-- A node without content must have an anchor or a tag. -/
  missing (place : Mark) : Step :=
    if properties.anchor.isSome || properties.tag.isSome then .event (.blank properties) g.resume
    else refuse .missingContent place (if block then .blockNode else .flowNode) start

/-- A node. -/
def node (g : Grammar) (block level : Bool) : Step :=
  match g.tokens with
  | [] => .cut
  | (.alias name, place) :: _ => .event (.alias name place) g.skip.resume
  | (_, start) :: _ =>
    let (anchor, name, g) := g.properties
    if g.tokens.isEmpty then .cut else
    match name with
    | none => g.content { anchor } start block level
    | some (name, place) =>
      match name.resolve? g.handles with
      | none => refuse .unknownHandle place .node start
      | some tag => g.content { anchor, tag := some tag } start block level

/-- Takes the directives in front of a document into account. Each may be given once. -/
def directives : List (Token × Mark) → (version : Bool) → TagHandles →
    Except SyntaxFault (List (Token × Mark) × TagHandles)
  | (.versionDirective major minor, place) :: rest, version, handles =>
    if version then .error (.broken .secondVersion place none)
    else if major ≠ 1 || (minor ≠ 1 && minor ≠ 2) then .error (.broken .otherVersion place none)
    else directives rest true handles
  | (.tagDirective handle meaning, place) :: rest, version, handles =>
    if (handles.lookup handle).isSome then .error (.broken .secondHandle place none)
    else directives rest version (handles ++ [(handle, meaning)])
  | tokens, _, handles => .ok (tokens, handles)

/-- A document or the end of the text. -/
def document (g : Grammar) (first : Bool) : Step :=
  let tokens := if first then g.tokens else g.tokens.dropWhile (·.1 == .documentEnd)
  let start (tokens : List (Token × Mark)) (handles : TagHandles) (expected : Expected) : Step :=
    .event .documentStart { expected, later := [.documentEnd], tokens, handles }
  match directives tokens false [] with
  | .error fault => .fault fault
  | .ok (rest, handles) =>
    let handles := handles ++ TagHandles.standard
    let direct := rest.length = tokens.length
    match rest with
    | [] => .cut
    | (token, place) :: after =>
      if token = .streamEnd && direct then .finished
      else if token = .documentStart then start after handles .marked
      else if first && direct then start rest handles .node
      else .fault (.broken .missingDocument place none)

/-- Whether a token ends an item or an entry that is written by indentation. -/
def endsEntry : Token → Bool
  | .key | .value | .blockEnd => true
  | _ => false

/-- A key and its value inside the brackets of a sequence, or an item. -/
def flowItem (g : Grammar) (start : Mark) : Step :=
  match g.tokens with
  | [] => .cut
  | (.key, _) :: _ => .event (.mappingStart {}) (g.skip.expect (.pairKey start))
  | (.flowSequenceEnd, _) :: _ => .event .sequenceEnd g.skip.resume
  | _ => (g.before (.flowItem start)).node false false

/-- An entry inside the brackets of a mapping. -/
def flowKey (g : Grammar) (start : Mark) : Step :=
  match g.tokens with
  | [] => .cut
  | (.key, _) :: rest =>
    match rest with
    | [] => .cut
    | (.value, _) :: _ | (.flowEntry, _) :: _ | (.flowMappingEnd, _) :: _ =>
      g.skip.blank (.flowValue start false)
    | _ => (g.skip.before (.flowValue start false)).node false false
  | (.flowMappingEnd, _) :: _ => .event .mappingEnd g.skip.resume
  | _ => (g.before (.flowValue start true)).node false false

/-- An item that is written by indentation. -/
def blockItem (g : Grammar) (start : Mark) : Step :=
  match g.tokens with
  | [] | [(.blockEntry, _)] => .cut
  | (.blockEntry, _) :: (token, _) :: _ =>
    if token = .blockEntry || token = .blockEnd then g.skip.blank (.blockItem start)
    else (g.skip.before (.blockItem start)).node true false
  | (.blockEnd, _) :: _ => .event .sequenceEnd g.skip.resume
  | (_, place) :: _ => refuse .missingItem place .blockList start

/-- A key that is written by indentation. -/
def blockKey (g : Grammar) (start : Mark) : Step :=
  match g.tokens with
  | [] | [(.key, _)] => .cut
  | (.key, _) :: (token, _) :: _ =>
    if endsEntry token then g.skip.blank (.blockValue start)
    else (g.skip.before (.blockValue start)).node true true
  | (.blockEnd, _) :: _ => .event .mappingEnd g.skip.resume
  | (_, place) :: _ => refuse .missingKey place .blockTable start

/-- One step: the next event, after as many tokens as are needed to know it. -/
def step (g : Grammar) : Step :=
  match g.expected, g.tokens with
  | .document first, _ => g.document first
  | _, [] => .cut
  | .pairEnd start, _ => .event .mappingEnd (g.expect (.flowItem start))
  | .marked, (token, _) :: _ =>
    match token with
    | .versionDirective .. | .tagDirective .. | .documentStart | .documentEnd | .streamEnd =>
      .event .blank g.resume
    | _ => g.node true false
  | .node, _ => g.node true false
  | .documentEnd, (token, _) :: _ =>
    .event .documentEnd ((if token = .documentEnd then g.skip else g).expect (.document false))
  | .blockItem none, (_, start) :: _ => g.skip.blockItem start
  | .blockItem (some start), _ => g.blockItem start
  | .levelItem, (.blockEntry, _) :: rest =>
    match rest with
    | [] => .cut
    | (token, _) :: _ =>
      if endsEntry token || token = .blockEntry then g.skip.blank .levelItem
      else (g.skip.before .levelItem).node true false
  | .levelItem, _ => .event .sequenceEnd g.resume
  | .blockKey none, (_, start) :: _ => g.skip.blockKey start
  | .blockKey (some start), _ => g.blockKey start
  | .blockValue start, (.value, _) :: rest =>
    match rest with
    | [] => .cut
    | (token, _) :: _ =>
      if endsEntry token then g.skip.blank (.blockKey start)
      else (g.skip.before (.blockKey start)).node true true
  | .blockValue start, _ => g.blank (.blockKey start)
  | .flowItem none, (_, start) :: _ => g.skip.flowItem start
  | .flowItem (some start), (.flowSequenceEnd, _) :: _ => g.flowItem start
  | .flowItem (some start), (.flowEntry, _) :: _ => g.skip.flowItem start
  | .flowItem (some start), (_, place) :: _ => refuse .unclosedList place .flowList start
  | .pairKey start, (token, _) :: _ =>
    match token with
    | .value | .flowEntry | .flowSequenceEnd => g.skip.blank (.pairValue start)
    | _ => (g.before (.pairValue start)).node false false
  | .pairValue start, (.value, _) :: rest =>
    match rest with
    | [] => .cut
    | (.flowEntry, _) :: _ | (.flowSequenceEnd, _) :: _ => g.skip.blank (.pairEnd start)
    | _ => (g.skip.before (.pairEnd start)).node false false
  | .pairValue start, _ => g.blank (.pairEnd start)
  | .flowKey none, (_, start) :: _ => g.skip.flowKey start
  | .flowKey (some start), (.flowMappingEnd, _) :: _ => g.flowKey start
  | .flowKey (some start), (.flowEntry, _) :: _ => g.skip.flowKey start
  | .flowKey (some start), (_, place) :: _ => refuse .unclosedTable place .flowTable start
  | .flowValue start true, _ => g.blank (.flowKey start)
  | .flowValue start false, (.value, _) :: rest =>
    match rest with
    | [] => .cut
    | (.flowEntry, _) :: _ | (.flowMappingEnd, _) :: _ => g.skip.blank (.flowKey start)
    | _ => (g.skip.before (.flowKey start)).node false false
  | .flowValue start false, _ => g.blank (.flowKey start)

/-- The events from here on, and why they do not reach the end of the text; `cut` is why the tokens
do not. -/
def events (cut : SyntaxFault) : (limit : Nat) → Grammar → List Event × Option SyntaxFault
  | 0, _ => ([], some cut)
  | limit + 1, g =>
    match g.step with
    | .cut => ([], some cut)
    | .fault fault => ([], some fault)
    | .finished => ([], none)
    | .event event next =>
      let (rest, fault) := events cut limit next
      (event :: rest, fault)

end Grammar

/-- The events of a text, and the fault that ends them if the text breaks the rules. Without a fault
the tokens end with the end of the text, so that they never end before a step is known. -/
def Event.ofText (text : String) : List Event × Option SyntaxFault :=
  let (tokens, fault) := Token.ofText text
  let cut := fault.getD (.broken .missingDocument ⟨0, 0⟩ none)
  Grammar.events cut (4 * tokens.length + 8) { tokens }

end FieldAccess.Yaml
