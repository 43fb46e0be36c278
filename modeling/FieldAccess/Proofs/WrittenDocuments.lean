import FieldAccess.Proofs.WrittenTokens

/-!
# Documents of written values

The tokens of a table follow the grammar, and the events of the text are put together to the node
that the table is written as. So the text that describes a table is read as this node.

## Main definitions

* `valueParts`, `entryParts` – the parts of the node that a value is written as.
* `Grammar.Yields`, `Grammar.Step.Yields` – the events that the grammar finds.

## Main statements

* `Grammar.node_yields` – the grammar finds the events of a value in its tokens.
* `Node.ofParts_valueParts` – a node is made up of its parts.
* `Document.ofText_encode` – the document of the text that describes a table.
-/

namespace FieldAccess.Yaml

mutual

/-- The parts of the node that a value is written as. -/
def valueParts : Json → List Part
  | .text s => [.scalar none (styleOf s) s]
  | .integer n => [.scalar none .plain (toString n)]
  | .table entries => .openTable none :: (entryParts entries ++ [.close])
  | _ => []

/-- The parts of the nodes that entries are written as. -/
def entryParts : List (String × Json) → List Part
  | [] => []
  | (key, value) :: rest =>
    .scalar none (styleOf key) key :: (valueParts value ++ entryParts rest)

end

/-- The event that a part without an anchor comes from. -/
def Part.event : Part → Event
  | .scalar tag style text => .scalar { tag } style text
  | .reference _ => .blank
  | .openList tag => .sequenceStart { tag }
  | .openTable tag => .mappingStart { tag }
  | .close => .mappingEnd

/-! ### Nodes -/

namespace Node

/-- The keys and values of entries in their order. -/
def flat : List (Node × Node) → List Node
  | [] => []
  | (key, value) :: rest => key :: value :: flat rest

theorem pairs_flat (entries : List (Node × Node)) : pairs (flat entries) = entries := by
  induction entries with
  | nil => rfl
  | cons entry rest ih => rw [flat, pairs, ih]

theorem foldr_entryParts {entries : List (String × Json)}
    (h : ∀ entry ∈ entries, ∀ level outer,
      (valueParts entry.2).foldr prepend (level :: outer) = (ofValue entry.2 :: level) :: outer)
    (level : List Node) (outer : List (List Node)) :
    (entryParts entries).foldr prepend (level :: outer) =
      (flat (ofEntries entries) ++ level) :: outer := by
  induction entries with
  | nil => simp [entryParts, ofEntries, flat]
  | cons entry entries ih =>
    obtain ⟨key, value⟩ := entry
    have hvalue := h _ List.mem_cons_self
    rw [entryParts, List.foldr_cons, List.foldr_append,
      ih fun entry hentry => h entry (List.mem_cons_of_mem _ hentry), hvalue]
    simp [prepend, ofEntries, flat]

/-- The parts of a value are put together to its node. -/
theorem foldr_valueParts {value : Json} (h : IsWritten value) (level : List Node)
    (outer : List (List Node)) :
    (valueParts value).foldr prepend (level :: outer) = (ofValue value :: level) :: outer := by
  induction h generalizing level outer with
  | text s => simp [valueParts, prepend, ofValue]
  | natural n => simp [valueParts, prepend, ofValue]
  | @table entries h ih =>
    rw [valueParts, List.foldr_cons, List.foldr_append]
    have hclose : [Part.close].foldr prepend (level :: outer) = [] :: level :: outer := rfl
    rw [hclose, foldr_entryParts ih, List.append_nil, prepend, pairs_flat, ofValue]

/-- **Nodes.** A node is made up of its parts. -/
theorem ofParts_valueParts {value : Json} (h : IsWritten value) :
    ofParts (valueParts value) = ofValue value := by
  rw [ofParts, foldr_valueParts h]

end Node

/-! ### The grammar -/

namespace Grammar

variable {cut : SyntaxFault} {g : Grammar} {expected : List Event}

/-- The grammar finds the expected events and no fault. -/
def Yields (cut : SyntaxFault) (g : Grammar) (expected : List Event) : Prop :=
  ∀ limit, expected.length < limit → events cut limit g = (expected, none)

/-- A step finds the first of the expected events, and the steps after it the others. -/
def Step.Yields (cut : SyntaxFault) (step : Step) (expected : List Event) : Prop :=
  ∃ event next rest, step = .event event next ∧ expected = event :: rest ∧
    Grammar.Yields cut next rest

theorem yields_of_step (h : g.step.Yields cut expected) : g.Yields cut expected := by
  obtain ⟨event, next, rest, hstep, rfl, hnext⟩ := h
  intro limit hlimit
  rw [List.length_cons] at hlimit
  obtain ⟨limit, rfl⟩ : ∃ m, limit = m + 1 := ⟨limit - 1, by omega⟩
  rw [events, hstep]
  simp only
  rw [hnext limit (by omega)]

theorem yields_of_finished (h : g.step = .finished) : g.Yields cut [] := by
  intro limit hlimit
  obtain ⟨limit, rfl⟩ : ∃ m, limit = m + 1 := ⟨limit - 1, by rw [List.length_nil] at hlimit; omega⟩
  rw [events, h]

/-- The tokens of a value start with none that ends an entry. -/
theorem exists_valueTokens {value : Json} (h : IsWritten value) :
    ∃ token tokens, valueTokens value = token :: tokens ∧ endsEntry token = false := by
  cases h with
  | text s => exact ⟨_, _, by rw [valueTokens], rfl⟩
  | natural n => exact ⟨_, _, by rw [valueTokens], rfl⟩
  | @table entries h =>
    cases entries with
    | nil => exact ⟨_, _, by rw [valueTokens], rfl⟩
    | cons entry entries => exact ⟨_, _, by rw [valueTokens]; simp, rfl⟩

/-- The events of a value are found in its tokens, whatever is expected behind it. -/
def FindsNode (cut : SyntaxFault) (value : Json) : Prop :=
  ∀ ⦃g : Grammar⦄ ⦃tokens more : List (Token × Mark)⦄ ⦃next : Expected⦄ ⦃later : List Expected⦄
    ⦃expected : List Event⦄,
    tokens.map Prod.fst = valueTokens value → g.tokens = tokens ++ more → g.later = next :: later →
      Grammar.Yields cut ⟨next, later, more, g.handles⟩ expected →
        ∀ level, (g.node true level).Yields cut ((valueParts value).map Part.event ++ expected)

section Found

variable {next : Expected} {later : List Expected} {tokens more : List (Token × Mark)}
  {place start : Mark}

/-- A scalar is found in its token. -/
theorem node_scalar {style : ScalarStyle} {text : String}
    (htokens : g.tokens = (.scalar style text, place) :: more) (hlater : g.later = next :: later)
    (hnext : Grammar.Yields cut ⟨next, later, more, g.handles⟩ expected) (level : Bool) :
    (g.node true level).Yields cut (.scalar {} style text :: expected) := by
  refine ⟨_, _, _, ?_, rfl, hnext⟩
  simp [node, htokens, properties, content, skip, resume, hlater]

/-- Behind a key its value is expected, and behind the value the next key. -/
theorem blockKey_cons {value : Json} {style : ScalarStyle} {key : String}
    {keyPlace valuePlace : Mark}
    (hvalue : IsWritten value) (hfinds : FindsNode cut value)
    (htokens : tokens.map Prod.fst = valueTokens value)
    (hg : g.tokens = (.key, keyPlace) :: (.scalar style key, place) :: (.value, valuePlace) ::
      (tokens ++ more))
    (hnext : Grammar.Yields cut ⟨.blockKey start, g.later, more, g.handles⟩ expected) :
    (g.blockKey start).Yields cut
      (.scalar {} style key :: ((valueParts value).map Part.event ++ expected)) := by
  have hkey : g.blockKey start = (g.skip.before (.blockValue start)).node true true := by
    simp [blockKey, hg, endsEntry]
  have hbehind : Grammar.Yields cut
      ⟨.blockValue start, g.later, (.value, valuePlace) :: (tokens ++ more), g.handles⟩
      ((valueParts value).map Part.event ++ expected) := by
    obtain ⟨token, names, hnames, htoken⟩ := exists_valueTokens hvalue
    rw [hnames, List.map_eq_cons_iff] at htokens
    obtain ⟨⟨first, firstPlace⟩, rest, rfl, rfl, hrest⟩ := htokens
    have hall : ((first, firstPlace) :: rest).map Prod.fst = valueTokens value := by
      rw [List.map_cons, hrest, hnames]
    refine yields_of_step ?_
    have hstep : Grammar.step ⟨.blockValue start, g.later,
        (.value, valuePlace) :: ((first, firstPlace) :: rest ++ more), g.handles⟩ =
          Grammar.node ⟨.blockValue start, .blockKey start :: g.later,
            (first, firstPlace) :: rest ++ more, g.handles⟩ true true := by
      simp [step, htoken, skip, before]
    rw [hstep]
    exact hfinds (g := ⟨.blockValue start, .blockKey start :: g.later,
      (first, firstPlace) :: rest ++ more, g.handles⟩) hall rfl rfl hnext true
  have hscalar : (g.skip.before (.blockValue start)).tokens =
      (.scalar style key, place) :: (.value, valuePlace) :: (tokens ++ more) := by
    simp [skip, before, hg]
  rw [hkey]
  exact node_scalar hscalar rfl hbehind true

/-- The entries of a table are found up to the end of the table. -/
theorem blockKey_yields (start : Mark) {entries : List (String × Json)}
    (h : ∀ entry ∈ entries, IsWritten entry.2 ∧ FindsNode cut entry.2)
    (htokens : tokens.map Prod.fst = entryTokens entries)
    (hg : g.tokens = tokens ++ (.blockEnd, place) :: more) (hlater : g.later = next :: later)
    (hnext : Grammar.Yields cut ⟨next, later, more, g.handles⟩ expected) :
    (g.blockKey start).Yields cut
      ((entryParts entries).map Part.event ++ .mappingEnd :: expected) := by
  induction entries generalizing g tokens with
  | nil =>
    obtain rfl : tokens = [] := by simpa [entryTokens] using htokens
    refine ⟨_, _, _, ?_, by simp [entryParts]; rfl, hnext⟩
    rw [List.nil_append] at hg
    simp [blockKey, hg, skip, resume, hlater]
  | cons entry entries ih =>
    obtain ⟨key, value⟩ := entry
    obtain ⟨hvalue, hfinds⟩ := h _ List.mem_cons_self
    simp only [entryTokens, List.map_eq_cons_iff, List.map_eq_append_iff] at htokens
    obtain ⟨⟨_, keyPlace⟩, _, rfl, rfl, ⟨_, scalarPlace⟩, _, rfl, rfl, ⟨_, valuePlace⟩, _, rfl, rfl,
      valueToks, entryToks, rfl, hvalueToks, hentryToks⟩ := htokens
    have hentries := ih (g := ⟨.blockKey start, g.later, entryToks ++ (.blockEnd, place) :: more,
      g.handles⟩) (fun entry hentry => h entry (List.mem_cons_of_mem _ hentry)) hentryToks rfl
      hlater hnext
    have hstep : Grammar.step ⟨.blockKey start, g.later, entryToks ++ (.blockEnd, place) :: more,
        g.handles⟩ = Grammar.blockKey ⟨.blockKey start, g.later,
          entryToks ++ (.blockEnd, place) :: more, g.handles⟩ start := by
      cases entryToks <;> simp [step]
    rw [entryParts, List.map_cons, List.map_append, List.cons_append, List.append_assoc]
    exact blockKey_cons hvalue hfinds hvalueToks (by simpa using hg)
      (yields_of_step (hstep ▸ hentries))

theorem findsNode_scalar {value : Json} {style : ScalarStyle} {text : String}
    (hvalue : valueTokens value = [.scalar style text])
    (hparts : valueParts value = [.scalar none style text]) : FindsNode cut value := by
  intro g tokens more next later expected htokens hg hlater hnext level
  obtain ⟨⟨_, place⟩, rest, rfl, rfl, hrest⟩ := List.map_eq_cons_iff.1 (htokens.trans hvalue)
  obtain rfl := List.map_eq_nil_iff.1 hrest
  rw [hparts]
  exact node_scalar hg hlater hnext level

/-- The start of a table is found, and behind it what the grammar expects inside the table. -/
theorem node_table {token : Token} {inside : Expected} {events : List Event}
    (htoken : token = .blockMappingStart ∧ inside = .blockKey none ∨
      token = .flowMappingStart ∧ inside = .flowKey none)
    (hg : g.tokens = (token, place) :: more)
    (hnext : Step.Yields cut (step ⟨inside, g.later, g.tokens, g.handles⟩) events) (level : Bool) :
    (g.node true level).Yields cut (.mappingStart {} :: events) := by
  refine ⟨_, _, _, ?_, rfl, yields_of_step hnext⟩
  rcases htoken with ⟨rfl, rfl⟩ | ⟨rfl, rfl⟩ <;>
    simp [node, hg, properties, content, expect]

/-- **Values.** The events of a value are found in its tokens. -/
theorem findsNode_of_isWritten {value : Json} (h : IsWritten value) : FindsNode cut value := by
  induction h with
  | text s => exact findsNode_scalar (by rw [valueTokens]) (by rw [valueParts])
  | natural n => exact findsNode_scalar (by rw [valueTokens]) (by rw [valueParts])
  | @table entries h ih =>
    intro g tokens more next later expected htokens hg hlater hnext level
    rw [valueParts, List.map_cons, List.map_append, List.cons_append, List.append_assoc]
    cases entries with
    | nil =>
      rw [valueTokens] at htokens
      obtain ⟨⟨_, startPlace⟩, _, rfl, rfl, hrest⟩ := List.map_eq_cons_iff.1 htokens
      obtain ⟨⟨_, endPlace⟩, _, rfl, rfl, hnil⟩ := List.map_eq_cons_iff.1 hrest
      obtain rfl := List.map_eq_nil_iff.1 hnil
      have hinside : Step.Yields cut (step ⟨.flowKey none, g.later, g.tokens, g.handles⟩)
          (.mappingEnd :: expected) := by
        refine ⟨_, _, _, ?_, rfl, hnext⟩
        simp [step, hg, flowKey, skip, resume, hlater]
      exact node_table (.inr ⟨rfl, rfl⟩) hg hinside level
    | cons entry entries =>
      have htable : valueTokens (.table (entry :: entries)) =
          .blockMappingStart :: (entryTokens (entry :: entries) ++ [.blockEnd]) := rfl
      rw [htable, List.map_eq_cons_iff] at htokens
      obtain ⟨⟨_, startPlace⟩, _, rfl, rfl, hrest⟩ := htokens
      obtain ⟨entryToks, _, rfl, hentryToks, hend⟩ := List.map_eq_append_iff.1 hrest
      obtain ⟨⟨_, endPlace⟩, _, rfl, rfl, hnil⟩ := List.map_eq_cons_iff.1 hend
      obtain rfl := List.map_eq_nil_iff.1 hnil
      have hinside := blockKey_yields startPlace
        (g := ⟨.blockKey none, g.later, entryToks ++ (.blockEnd, endPlace) :: more, g.handles⟩)
        (fun entry hentry => ⟨h entry hentry, ih entry hentry⟩) hentryToks rfl hlater hnext
      have hstep : step ⟨.blockKey none, g.later, g.tokens, g.handles⟩ =
          blockKey ⟨.blockKey none, g.later, entryToks ++ (.blockEnd, endPlace) :: more, g.handles⟩
            startPlace := by
        simp [step, hg, skip]
      exact node_table (.inl ⟨rfl, rfl⟩) hg (hstep ▸ hinside) level

end Found

/-- The events of a table in a text of its own. -/
theorem yields_document {entries : List (String × Json)} {tokens : List (Token × Mark)}
    (h : IsWritten (.table entries))
    (htokens : tokens.map Prod.fst = valueTokens (.table entries) ++ [.streamEnd]) :
    Grammar.Yields cut { tokens } (.documentStart ::
      ((valueParts (.table entries)).map Part.event ++ [.documentEnd])) := by
  obtain ⟨valueToks, _, rfl, hvalueToks, hend⟩ := List.map_eq_append_iff.1 htokens
  obtain ⟨⟨_, endPlace⟩, _, rfl, rfl, hnil⟩ := List.map_eq_cons_iff.1 hend
  obtain rfl := List.map_eq_nil_iff.1 hnil
  have hlast : Grammar.Yields cut ⟨.documentEnd, [], [(.streamEnd, endPlace)], .standard⟩
      [.documentEnd] := by
    refine yields_of_step ⟨_, _, _, rfl, rfl, yields_of_finished ?_⟩
    simp [step, expect, document, directives]
  have hnode : Grammar.Yields cut
      ⟨.node, [.documentEnd], valueToks ++ [(.streamEnd, endPlace)], .standard⟩
      ((valueParts (.table entries)).map Part.event ++ [.documentEnd]) := by
    refine yields_of_step ?_
    have hstep : step ⟨.node, [.documentEnd], valueToks ++ [(.streamEnd, endPlace)], .standard⟩ =
        node ⟨.node, [.documentEnd], valueToks ++ [(.streamEnd, endPlace)], .standard⟩
          true false := by
      cases valueToks <;> simp [step]
    rw [hstep]
    exact findsNode_of_isWritten h (g := ⟨.node, [.documentEnd],
      valueToks ++ [(.streamEnd, endPlace)], .standard⟩) hvalueToks rfl rfl hlast false
  refine yields_of_step ⟨_, _, _, ?_, rfl, hnode⟩
  cases entries with
  | nil =>
    rw [valueTokens] at hvalueToks
    obtain ⟨⟨_, startPlace⟩, _, rfl, rfl, -⟩ := List.map_eq_cons_iff.1 hvalueToks
    simp [step, document, directives]
  | cons entry entries =>
    have htable : valueTokens (.table (entry :: entries)) =
        .blockMappingStart :: (entryTokens (entry :: entries) ++ [.blockEnd]) := rfl
    rw [htable] at hvalueToks
    obtain ⟨⟨_, startPlace⟩, _, rfl, rfl, -⟩ := List.map_eq_cons_iff.1 hvalueToks
    simp [step, document, directives]

end Grammar

/-! ### Documents -/

/-- The parts of a document are those that its events come from. -/
theorem Document.partsFrom_map {parts : List Part} {events : List Event}
    (hparts : ∀ part ∈ parts, ∀ anchor, part ≠ .reference anchor) {more : List Part}
    {after : After} (h : ∀ position, partsFrom [] [] position events = (more, [], after))
    (position : Nat) :
    partsFrom [] [] position (parts.map Part.event ++ events) = (parts ++ more, [], after) := by
  induction parts generalizing position with
  | nil => exact h position
  | cons part parts ih =>
    have hrest := ih fun part hpart => hparts part (List.mem_cons_of_mem _ hpart)
    cases part with
    | reference anchor => exact absurd rfl (hparts _ List.mem_cons_self anchor)
    | _ => simp [Part.event, partsFrom, hrest]

/-- A written value holds no references. -/
theorem notReference_of_mem {value : Json} (h : IsWritten value) :
    ∀ part ∈ valueParts value, ∀ anchor, part ≠ .reference anchor := by
  induction h with
  | text s => simp [valueParts]
  | natural n => simp [valueParts]
  | @table entries h ih =>
    have hentries : ∀ part ∈ entryParts entries, ∀ anchor, part ≠ .reference anchor := by
      clear h
      induction entries with
      | nil => simp [entryParts]
      | cons entry entries ihEntries =>
        have hlater := ihEntries fun entry hentry => ih entry (List.mem_cons_of_mem _ hentry)
        intro part hpart
        rw [entryParts, List.mem_cons, List.mem_append] at hpart
        rcases hpart with rfl | hpart | hpart
        · exact nofun
        · exact ih _ List.mem_cons_self part hpart
        · exact hlater part hpart
    intro part hpart
    simp only [valueParts, List.mem_cons, List.mem_append, List.not_mem_nil, or_false] at hpart
    rcases hpart with rfl | hpart | rfl
    · exact nofun
    · exact hentries part hpart
    · exact nofun

/-- A value has no more events than tokens. -/
theorem length_valueParts_le {value : Json} (h : IsWritten value) :
    (valueParts value).length ≤ (valueTokens value).length := by
  induction h with
  | text s => simp [valueParts, valueTokens]
  | natural n => simp [valueParts, valueTokens]
  | @table entries h ih =>
    have hentries : (entryParts entries).length ≤ (entryTokens entries).length := by
      clear h
      induction entries with
      | nil => simp [entryParts]
      | cons entry entries ihEntries =>
        have hvalue := ih _ List.mem_cons_self
        have hlater := ihEntries fun entry hentry => ih entry (List.mem_cons_of_mem _ hentry)
        simp only [entryParts, entryTokens, List.length_cons, List.length_append]
        omega
    cases entries with
    | nil => simp [valueParts, valueTokens, entryParts]
    | cons entry entries =>
      have htable : valueTokens (.table (entry :: entries)) =
          .blockMappingStart :: (entryTokens (entry :: entries) ++ [.blockEnd]) := rfl
      simp only [htable, valueParts, List.length_cons, List.length_append]
      omega

/-- **Documents of written tables.** The text that describes a table is read as the node that the
table is written as. -/
theorem Document.ofText_encode {entries : List (String × Json)} (hne : entries ≠ [])
    (h : ∀ entry ∈ entries, IsWritten entry.2) :
    Document.ofText (encode (.table entries)) = .ofNode (.ofValue (.table entries)) := by
  have hwritten : IsWritten (.table entries) := .table h
  obtain ⟨htokens, hfault⟩ := Token.ofText_encode hne h
  rcases hread : Token.ofText (encode (.table entries)) with ⟨tokens, fault⟩
  rw [hread] at htokens hfault
  have hevents : Event.ofText (encode (.table entries)) = (.documentStart ::
      ((valueParts (.table entries)).map Part.event ++ [.documentEnd]), none) := by
    have hlength := congrArg List.length htokens
    have hshort := length_valueParts_le hwritten
    rw [Event.ofText, hread]
    refine Grammar.yields_document hwritten htokens _ ?_
    simp only [List.length_map, List.length_append, List.length_cons, List.length_nil] at hlength ⊢
    omega
  have hend : ∀ position, Document.partsFrom [] [] position [.documentEnd] = ([], [], .events []) :=
    fun _ => rfl
  have hall : Document.partsFrom [] [] 0 (.documentStart ::
      ((valueParts (.table entries)).map Part.event ++ [.documentEnd])) =
        (valueParts (.table entries), [], .events []) := by
    have hparts := Document.partsFrom_map (notReference_of_mem hwritten) hend 0
    rw [List.append_nil] at hparts
    exact hparts
  rw [Document.ofText, hevents]
  simp only [Document.ofEvents, hall, Node.ofParts_valueParts hwritten]
  rfl

end FieldAccess.Yaml
