import Rebill.Yaml.Scanner

/-!
# The YAML parser

The parser reads the tokens of a text as a stream of events: documents, and in each document the
nodes in order, a collection as its start, its entries and its end. It is a state machine with a
stack of states to come back to, one state for each place of the grammar: before a document, in
a block sequence, in a block mapping before a key or a value, in a flow sequence or mapping.

A node may have an anchor and a tag in front of it; an alias stands for the node of an anchor
seen before in the same document. A missing node (a key without a value, a value without a
node) is the empty scalar `~`; an anchor or tag with nothing after it gives the empty text.

A token the grammar does not allow where it stands refuses the text at its mark. A refusal of
the scanner surfaces when the parser asks for the token it could not read.
-/

namespace Rebill.Yaml

/-- A resolved tag: the prefix its handle stands for, and its suffix. -/
structure Tag where
  handle : String
  suffix : String
deriving DecidableEq, Repr, Inhabited

/-- The events of a stream. Anchors are numbered from 1; 0 is no anchor. -/
inductive Event where
  | streamStart
  | streamEnd
  | documentStart
  | documentEnd
  | alias (id : Nat)
  | scalar (text : String) (style : ScalarStyle) (anchor : Nat) (tag : Option Tag)
  | sequenceStart (anchor : Nat) (tag : Option Tag)
  | sequenceEnd
  | mappingStart (anchor : Nat) (tag : Option Tag)
  | mappingEnd
deriving DecidableEq, Repr, Inhabited

/-- The places of the grammar the parser can be at. -/
inductive ParseState where
  | streamStart
  | implicitDocumentStart
  | documentStart
  | documentContent
  | documentEnd
  | blockNode
  | blockSequenceFirstEntry
  | blockSequenceEntry
  | indentlessSequenceEntry
  | blockMappingFirstKey
  | blockMappingKey
  | blockMappingValue
  | flowSequenceFirstEntry
  | flowSequenceEntry
  | flowSequenceEntryMappingKey
  | flowSequenceEntryMappingValue
  | flowSequenceEntryMappingEnd
  | flowMappingFirstKey
  | flowMappingKey
  | flowMappingValue
  | flowMappingEmptyValue
  | finished
deriving DecidableEq, Repr, Inhabited

/-- The state of the parser: the tokens still to read and the refusal after them, the place in
the grammar and the places to come back to, and the anchors and tag handles in force. -/
structure Parser where
  tokens : List Token
  failure : Option ScanError
  state : ParseState := .streamStart
  states : List ParseState := []
  anchors : List (String × Nat) := []
  anchorId : Nat := 1
  tags : List (String × String) := []
deriving Inhabited

abbrev ParseM := StateT Parser (Except ScanError)

namespace Parser

def peekToken : ParseM Token := do
  let p ← get
  match p.tokens with
  | t :: _ => pure t
  | [] =>
    match p.failure with
    | some e => throw e
    | none => throw { mark := {}, info := "unexpected eof" }

def skip : ParseM Unit := modify fun p => { p with tokens := p.tokens.tail }

def goTo (s : ParseState) : ParseM Unit := modify fun p => { p with state := s }

def pushState (s : ParseState) : ParseM Unit := modify fun p => { p with states := s :: p.states }

def popState : ParseM Unit :=
  modify fun p => { p with state := p.states.headD .finished, states := p.states.tail }

def fail (m : Mark) (info : String) : ParseM α := throw { mark := m, info }

def emptyScalar : Event := .scalar "~" .plain 0 none

def registerAnchor (name : String) : ParseM Nat := do
  let p ← get
  set { p with anchors := (name, p.anchorId) :: p.anchors, anchorId := p.anchorId + 1 }
  pure p.anchorId

/-- The tag a handle and a suffix stand for: `!!` stands for `tag:yaml.org,2002:` unless a
directive says otherwise, other handles for what their directives say; a handle of the form
`!name!` must have a directive. -/
def resolveTag (m : Mark) (handle suffix : String) : ParseM Tag := do
  let tags := (← get).tags
  let lookup := fun (h : String) => (tags.find? (·.1 == h)).map (·.2)
  if handle == "!!" then pure ⟨(lookup "!!").getD "tag:yaml.org,2002:", suffix⟩
  else if handle.isEmpty && suffix == "!" then pure ⟨(lookup "").getD "", suffix⟩
  else
    match lookup handle with
    | some pre => pure ⟨pre, suffix⟩
    | none =>
      if handle.length ≥ 2 && handle.startsWith "!" && handle.endsWith "!" then
        fail m "the handle wasn't declared"
      else pure ⟨handle, suffix⟩

/-- Reads the directives before a document; a second version directive is refused. -/
def processDirectives : Nat → Bool → ParseM Unit
  | 0, _ => pure ()
  | fuel + 1, seenVersion => do
    let t ← peekToken
    match t.kind with
    | .versionDirective _ _ =>
      if seenVersion then fail t.mark "duplicate version directive"
      modify fun p => { p with tags := [] }
      skip
      processDirectives fuel true
    | .tagDirective handle pre =>
      modify fun p => { p with tags := [(handle, pre)] }
      skip
      processDirectives fuel seenVersion
    | _ => pure ()

/-- The number of tokens still to read, a bound on any loop over them. -/
def budget : ParseM Nat := do pure ((← get).tokens.length + 1)

/-- The start of a document that begins with `---`, after its directives. -/
def explicitDocumentStart : ParseM (Event × Mark) := do
  processDirectives (← budget) false
  let t ← peekToken
  match t.kind with
  | .documentStart =>
    pushState .documentEnd
    goTo .documentContent
    skip
    pure (.documentStart, t.mark)
  | _ => fail t.mark "did not find expected <document start>"

/-- Before a document: the end of the stream, or a document, which after the first one must
begin with `---`. -/
def documentStart (implicit : Bool) : ParseM (Event × Mark) := do
  let _ ← skipEnds (← budget)
  let t ← peekToken
  match t.kind with
  | .streamEnd =>
    goTo .finished
    skip
    pure (.streamEnd, t.mark)
  | .versionDirective _ _ | .tagDirective _ _ | .documentStart => explicitDocumentStart
  | _ =>
    if implicit then
      processDirectives (← budget) false
      pushState .documentEnd
      goTo .blockNode
      pure (.documentStart, t.mark)
    else explicitDocumentStart
where
  /-- Reads the `...` markers before a document. -/
  skipEnds : Nat → ParseM Unit
    | 0 => pure ()
    | fuel + 1 => do
      if (← peekToken).kind == .documentEnd then
        skip
        skipEnds fuel

/-- The content of a document that begins with `---`: a node, or the empty scalar. -/
def documentContent (node : ParseM (Event × Mark)) : ParseM (Event × Mark) := do
  let t ← peekToken
  match t.kind with
  | .versionDirective _ _ | .tagDirective _ _ | .documentStart | .documentEnd | .streamEnd =>
    popState
    pure (emptyScalar, t.mark)
  | _ => node

/-- The end of a document, with or without `...`; a directive must follow `...`. -/
def documentEnd : ParseM (Event × Mark) := do
  let t ← peekToken
  let explicitEnd := t.kind == .documentEnd
  if explicitEnd then skip
  modify fun p => { p with tags := [] }
  if explicitEnd then goTo .implicitDocumentStart
  else
    let t' ← peekToken
    match t'.kind with
    | .versionDirective _ _ | .tagDirective _ _ =>
      fail t'.mark "missing explicit document end marker before directive"
    | _ => goTo .documentStart
  pure (.documentEnd, t.mark)

/-- A node: an alias, or a scalar or collection with its anchor and tag; in a block, a `-` may
start a sequence at the indentation of its mapping. -/
def parseNode (block indentlessSequence : Bool) : ParseM (Event × Mark) := do
  let t ← peekToken
  let (anchor, tag) ←
    match t.kind with
    | .alias name =>
      popState
      skip
      match ((← get).anchors.find? (·.1 == name)).map (·.2) with
      | none => fail t.mark "while parsing node, found unknown anchor"
      | some id => return (.alias id, t.mark)
    | .anchor name =>
      skip
      let id ← registerAnchor name
      let t' ← peekToken
      match t'.kind with
      | .tag h s =>
        skip
        let tag ← resolveTag t.mark h s
        pure (id, some tag)
      | _ => pure (id, none)
    | .tag h s =>
      skip
      let tag ← resolveTag t.mark h s
      let t' ← peekToken
      match t'.kind with
      | .anchor name =>
        skip
        let id ← registerAnchor name
        pure (id, some tag)
      | _ => pure (0, some tag)
    | _ => pure (0, none)
  let t ← peekToken
  match t.kind with
  | .blockEntry =>
    if indentlessSequence then
      goTo .indentlessSequenceEntry
      return (.sequenceStart anchor tag, t.mark)
  | .scalar style v =>
    popState
    skip
    return (.scalar v style anchor tag, t.mark)
  | .flowSequenceStart =>
    goTo .flowSequenceFirstEntry
    return (.sequenceStart anchor tag, t.mark)
  | .flowMappingStart =>
    goTo .flowMappingFirstKey
    return (.mappingStart anchor tag, t.mark)
  | .blockSequenceStart =>
    if block then
      goTo .blockSequenceFirstEntry
      return (.sequenceStart anchor tag, t.mark)
  | .blockMappingStart =>
    if block then
      goTo .blockMappingFirstKey
      return (.mappingStart anchor tag, t.mark)
  | _ => pure ()
  if tag.isSome || anchor > 0 then
    popState
    pure (.scalar "" .plain anchor tag, t.mark)
  else fail t.mark "while parsing a node, did not find expected node content"

def blockMappingKey (first : Bool) : ParseM (Event × Mark) := do
  if first then skip
  let t ← peekToken
  match t.kind with
  | .key =>
    skip
    let t' ← peekToken
    match t'.kind with
    | .key | .value | .blockEnd =>
      goTo .blockMappingValue
      pure (emptyScalar, t'.mark)
    | _ =>
      pushState .blockMappingValue
      parseNode true true
  | .value =>
    goTo .blockMappingValue
    pure (emptyScalar, t.mark)
  | .blockEnd =>
    popState
    skip
    pure (.mappingEnd, t.mark)
  | _ => fail t.mark "while parsing a block mapping, did not find expected key"

def blockMappingValue : ParseM (Event × Mark) := do
  let t ← peekToken
  match t.kind with
  | .value =>
    skip
    let t' ← peekToken
    match t'.kind with
    | .key | .value | .blockEnd =>
      goTo .blockMappingKey
      pure (emptyScalar, t'.mark)
    | _ =>
      pushState .blockMappingKey
      parseNode true true
  | _ =>
    goTo .blockMappingKey
    pure (emptyScalar, t.mark)

def blockSequenceEntry (first : Bool) : ParseM (Event × Mark) := do
  if first then skip
  let t ← peekToken
  match t.kind with
  | .blockEnd =>
    popState
    skip
    pure (.sequenceEnd, t.mark)
  | .blockEntry =>
    skip
    let t' ← peekToken
    match t'.kind with
    | .blockEntry | .blockEnd =>
      goTo .blockSequenceEntry
      pure (emptyScalar, t'.mark)
    | _ =>
      pushState .blockSequenceEntry
      parseNode true false
  | _ => fail t.mark "while parsing a block collection, did not find expected '-' indicator"

/-- In a sequence at the indentation of its mapping, before an entry. -/
def indentlessSequenceEntry : ParseM (Event × Mark) := do
  let t ← peekToken
  match t.kind with
  | .blockEntry =>
    skip
    let t' ← peekToken
    match t'.kind with
    | .blockEntry | .key | .value | .blockEnd =>
      goTo .indentlessSequenceEntry
      pure (emptyScalar, t'.mark)
    | _ =>
      pushState .indentlessSequenceEntry
      parseNode true false
  | _ =>
    popState
    pure (.sequenceEnd, t.mark)

/-- In a flow sequence, before an entry; a `key: value` entry is a mapping of one pair. -/
def flowSequenceEntry (first : Bool) : ParseM (Event × Mark) := do
  if first then skip
  let t ← peekToken
  match t.kind with
  | .flowSequenceEnd =>
    popState
    skip
    return (.sequenceEnd, t.mark)
  | .flowEntry => if !first then skip
  | _ => if !first then fail t.mark "while parsing a flow sequence, expected ',' or ']'"
  let t ← peekToken
  match t.kind with
  | .flowSequenceEnd =>
    popState
    skip
    pure (.sequenceEnd, t.mark)
  | .key =>
    goTo .flowSequenceEntryMappingKey
    skip
    pure (.mappingStart 0 none, t.mark)
  | _ =>
    pushState .flowSequenceEntry
    parseNode false false

/-- In a mapping of one pair in a flow sequence, before its key. -/
def flowSequenceEntryMappingKey : ParseM (Event × Mark) := do
  let t ← peekToken
  match t.kind with
  | .value | .flowEntry | .flowSequenceEnd =>
    goTo .flowSequenceEntryMappingValue
    pure (emptyScalar, t.mark)
  | _ =>
    pushState .flowSequenceEntryMappingValue
    parseNode false false

/-- In a mapping of one pair in a flow sequence, before its value. -/
def flowSequenceEntryMappingValue : ParseM (Event × Mark) := do
  let t ← peekToken
  match t.kind with
  | .value =>
    skip
    let t' ← peekToken
    match t'.kind with
    | .flowEntry | .flowSequenceEnd =>
      goTo .flowSequenceEntryMappingEnd
      pure (emptyScalar, t'.mark)
    | _ =>
      pushState .flowSequenceEntryMappingEnd
      parseNode false false
  | _ =>
    goTo .flowSequenceEntryMappingEnd
    pure (emptyScalar, t.mark)

def flowMappingKey (first : Bool) : ParseM (Event × Mark) := do
  if first then skip
  let t ← peekToken
  match t.kind with
  | .flowMappingEnd =>
    popState
    skip
    return (.mappingEnd, t.mark)
  | _ => pure ()
  if !first then
    match t.kind with
    | .flowEntry => skip
    | _ => fail t.mark "while parsing a flow mapping, did not find expected ',' or '\x7d'"
  let t ← peekToken
  match t.kind with
  | .key =>
    skip
    let t' ← peekToken
    match t'.kind with
    | .value | .flowEntry | .flowMappingEnd =>
      goTo .flowMappingValue
      pure (emptyScalar, t'.mark)
    | _ =>
      pushState .flowMappingValue
      parseNode false false
  | .value =>
    goTo .flowMappingValue
    pure (emptyScalar, t.mark)
  | .flowMappingEnd =>
    popState
    skip
    pure (.mappingEnd, t.mark)
  | _ =>
    pushState .flowMappingEmptyValue
    parseNode false false

/-- In a flow mapping, before a value; a key without `:` has the empty value. -/
def flowMappingValue (empty : Bool) : ParseM (Event × Mark) := do
  let t ← peekToken
  if empty then
    goTo .flowMappingKey
    return (emptyScalar, t.mark)
  match t.kind with
  | .value =>
    skip
    let t' ← peekToken
    match t'.kind with
    | .flowEntry | .flowMappingEnd => pure ()
    | _ =>
      pushState .flowMappingKey
      return (← parseNode false false)
  | _ => pure ()
  goTo .flowMappingKey
  pure (emptyScalar, t.mark)

def nextEvent : ParseM (Event × Mark) := do
  let p ← get
  match p.state with
  | .streamStart =>
    let t ← peekToken
    match t.kind with
    | .streamStart =>
      goTo .implicitDocumentStart
      skip
      pure (.streamStart, t.mark)
    | _ => fail t.mark "did not find expected <stream-start>"
  | .implicitDocumentStart => documentStart true
  | .documentStart => documentStart false
  | .documentContent => documentContent (parseNode true false)
  | .documentEnd => documentEnd
  | .blockNode => parseNode true false
  | .blockMappingFirstKey => blockMappingKey true
  | .blockMappingKey => blockMappingKey false
  | .blockMappingValue => blockMappingValue
  | .blockSequenceFirstEntry => blockSequenceEntry true
  | .blockSequenceEntry => blockSequenceEntry false
  | .flowSequenceFirstEntry => flowSequenceEntry true
  | .flowSequenceEntry => flowSequenceEntry false
  | .flowMappingFirstKey => flowMappingKey true
  | .flowMappingKey => flowMappingKey false
  | .flowMappingValue => flowMappingValue false
  | .indentlessSequenceEntry => indentlessSequenceEntry
  | .flowSequenceEntryMappingKey => flowSequenceEntryMappingKey
  | .flowSequenceEntryMappingValue => flowSequenceEntryMappingValue
  | .flowSequenceEntryMappingEnd =>
    goTo .flowSequenceEntry
    pure (.mappingEnd, {})
  | .flowMappingEmptyValue => flowMappingValue true
  | .finished => pure (.streamEnd, {})

end Parser

/-- The events of a text up to the end of the stream, each with where it is, or the refusal of
the text. The anchors of a document are forgotten when the next one starts. -/
def eventsOf (text : String) : Except ScanError (List (Event × Mark)) :=
  let (tokens, failure) := tokensOf text
  loop (3 * tokens.length + 8) { tokens, failure } []
where
  /-- Reads events, at most `fuel` of them. -/
  loop : Nat → Parser → List (Event × Mark) → Except ScanError (List (Event × Mark))
    | 0, _, acc => .ok acc.reverse
    | fuel + 1, p, acc =>
      match Parser.nextEvent.run p with
      | .error e => .error e
      | .ok ((ev, m), p') =>
        if ev == .streamEnd then .ok ((ev, m) :: acc).reverse
        else
          let p' := if ev == .documentStart then { p' with anchors := [] } else p'
          loop fuel p' ((ev, m) :: acc)

end Rebill.Yaml
