import FlatProjection.Yaml.Scanner
/-
Parsing YAML tokens into events.
-/

namespace FlatProjection.Yaml

/-- An event of a YAML stream. A node's tag is written out in full. -/
inductive Event where
  | streamStart
  | streamEnd
  | documentStart
  | documentEnd
  | alias (name : String)
  | scalar (anchor tag : Option String) (text : String) (style : ScalarStyle)
  | sequenceStart (anchor tag : Option String)
  | sequenceEnd
  | mappingStart (anchor tag : Option String)
  | mappingEnd
deriving Inhabited

/-- What the parser expects next. -/
inductive ParseState where
  | streamStart
  | implicitDocumentStart
  | documentStart
  | documentContent
  | documentEnd
  | blockNode
  | blockSequenceFirstEntry
  | blockSequenceEntry
  | indentlessSequenceEntry
  | blockMappingFirstKey
  | blockMappingKey
  | blockMappingValue
  | flowSequenceFirstEntry
  | flowSequenceEntry
  | flowSequenceEntryMappingKey
  | flowSequenceEntryMappingValue
  | flowSequenceEntryMappingEnd
  | flowMappingFirstKey
  | flowMappingKey
  | flowMappingValue
  | flowMappingEmptyValue
  | finished
deriving Inhabited, DecidableEq

/-- The parser's state: the tokens, the place of the next one, and the stacks of states to
return to and of collection starts (for error messages). -/
structure Parser where
  stream : TokenStream
  next : Nat := 0
  state : ParseState := .streamStart
  states : List ParseState := []
  marks : List Mark := []
  tagDirectives : List (String × String) := []

/-- Parsing steps: they may fail with a syntax error. -/
abbrev ParseM := ExceptT SyntaxError (StateM Parser)

namespace Parser

/-- The next token; past the scanned tokens, the scanning error. -/
def peek : ParseM Token := do
  let p ← get
  match p.stream.tokens[p.next]? with
  | some token => return token
  | none =>
    match p.stream.failure with
    | some e => throw e
    | none => throw ⟨"did not find expected <stream-end>", ⟨0, 0, 0⟩, none, ⟨0, 0, 0⟩⟩

/-- Steps past the next token. -/
def skipToken : ParseM Unit := modify fun p => { p with next := p.next + 1 }

/-- Continues in `state`. -/
def goTo (state : ParseState) : ParseM Unit := modify fun p => { p with state }

/-- Remembers `state` to return to after the node being parsed. -/
def pushState (state : ParseState) : ParseM Unit :=
  modify fun p => { p with states := state :: p.states }

/-- Returns to the state remembered last. -/
def popState : ParseM Unit :=
  modify fun p => match p.states with
    | s :: rest => { p with state := s, states := rest }
    | [] => { p with state := .finished }

/-- Remembers where a collection began. -/
def pushMark (m : Mark) : ParseM Unit := modify fun p => { p with marks := m :: p.marks }

/-- Forgets the collection begun last, giving its start. -/
def popMark : ParseM Mark := do
  let p ← get
  match p.marks with
  | m :: rest =>
    set { p with marks := rest }
    return m
  | [] => return ⟨0, 0, 0⟩

/-- Fails with `problem` at `m`. -/
def failAt {α : Type} (problem : String) (m : Mark) : ParseM α := throw ⟨problem, m, none, ⟨0, 0, 0⟩⟩

/-- Fails with `problem` at `m`, while parsing `context` begun at `start`. -/
def failIn {α : Type} (context : String) (start : Mark) (problem : String) (m : Mark) : ParseM α :=
  throw ⟨problem, m, some context, start⟩

/-- An empty plain scalar at `m`. -/
def emptyScalar (m : Mark) : ParseM (Event × Mark) :=
  return (.scalar none none "" .plain, m)

/-- Reads the directives before a document and installs the tag handles, the default `!`
and `!!` ones after those written. -/
def processDirectives : ParseM Unit := do
  let mut seenVersion := false
  let mut handles : List (String × String) := []
  for _ in [0:(← get).stream.tokens.size + 1] do
    let token ← peek
    match token.kind with
    | .versionDirective major minor =>
      if seenVersion then failAt "found duplicate %YAML directive" token.start
      if major != 1 || (minor != 1 && minor != 2) then
        failAt "found incompatible YAML document" token.start
      seenVersion := true
      skipToken
    | .tagDirective handle pre =>
      if handles.any (·.1 == handle) then failAt "found duplicate %TAG directive" token.start
      handles := handles ++ [(handle, pre)]
      skipToken
    | _ => break
  for default in [("!", "!"), ("!!", "tag:yaml.org,2002:")] do
    if !handles.any (·.1 == default.1) then handles := handles ++ [default]
  modify fun p => { p with tagDirectives := handles }

/-- Parses the start of a document, or the end of the stream. -/
def documentStartStep (implicit : Bool) : ParseM (Event × Mark) := do
  let mut token ← peek
  if !implicit then
    for _ in [0:(← get).stream.tokens.size + 1] do
      if token.kind == .documentEnd then
        skipToken
        token ← peek
      else break
  let isDirective := match token.kind with
    | .versionDirective _ _ | .tagDirective _ _ => true
    | _ => false
  if implicit && !isDirective && token.kind != .documentStart && token.kind != .streamEnd then
    processDirectives
    pushState .documentEnd
    goTo .blockNode
    return (.documentStart, token.start)
  else if token.kind != .streamEnd then
    let start := token.start
    processDirectives
    let marker ← peek
    if marker.kind != .documentStart then failAt "did not find expected <document start>" marker.start
    pushState .documentEnd
    goTo .documentContent
    skipToken
    return (.documentStart, start)
  else
    goTo .finished
    skipToken
    return (.streamEnd, token.start)

/-- Parses a node: an alias, or an optional anchor and tag before a scalar or a collection
start. A lone anchor or tag stands for an empty scalar. -/
def nodeStep (block indentlessSequence : Bool) : ParseM (Event × Mark) := do
  let token ← peek
  if let .alias name := token.kind then
    popState
    skipToken
    return (.alias name, token.start)
  let mut start := token.start
  let mut anchor : Option String := none
  let mut tagParts : Option (String × String) := none
  let mut tagMark := token.start
  let mut token := token
  if let .anchor name := token.kind then
    anchor := some name
    skipToken
    token ← peek
    if let .tag handle suffix := token.kind then
      tagParts := some (handle, suffix)
      tagMark := token.start
      skipToken
      token ← peek
  else if let .tag handle suffix := token.kind then
    tagParts := some (handle, suffix)
    tagMark := token.start
    skipToken
    token ← peek
    if let .anchor name := token.kind then
      anchor := some name
      skipToken
      token ← peek
  let mut tag : Option String := none
  if let some (handle, suffix) := tagParts then
    if handle.isEmpty then tag := some suffix
    else
      match (← get).tagDirectives.find? (·.1 == handle) with
      | some (_, pre) => tag := some (pre ++ suffix)
      | none => failIn "while parsing a node" start "found undefined tag handle" tagMark
  if indentlessSequence && token.kind == .blockEntry then
    goTo .indentlessSequenceEntry
    return (.sequenceStart anchor tag, start)
  match token.kind with
  | .scalar text style =>
    popState
    skipToken
    return (.scalar anchor tag text style, start)
  | .flowSequenceStart =>
    goTo .flowSequenceFirstEntry
    return (.sequenceStart anchor tag, start)
  | .flowMappingStart =>
    goTo .flowMappingFirstKey
    return (.mappingStart anchor tag, start)
  | .blockSequenceStart =>
    if block then
      goTo .blockSequenceFirstEntry
      return (.sequenceStart anchor tag, start)
    else if anchor.isSome || tag.isSome then
      popState
      return (.scalar anchor tag "" .plain, start)
    else failIn "while parsing a flow node" start "did not find expected node content" token.start
  | .blockMappingStart =>
    if block then
      goTo .blockMappingFirstKey
      return (.mappingStart anchor tag, start)
    else if anchor.isSome || tag.isSome then
      popState
      return (.scalar anchor tag "" .plain, start)
    else failIn "while parsing a flow node" start "did not find expected node content" token.start
  | _ =>
    if anchor.isSome || tag.isSome then
      popState
      return (.scalar anchor tag "" .plain, start)
    else
      failIn (if block then "while parsing a block node" else "while parsing a flow node") start
        "did not find expected node content" token.start

/-- Parses an entry of a block sequence, or its end. -/
def blockSequenceEntryStep (first : Bool) : ParseM (Event × Mark) := do
  if first then
    pushMark (← peek).start
    skipToken
  let token ← peek
  if token.kind == .blockEntry then
    let m := token.stop
    skipToken
    let token ← peek
    if token.kind != .blockEntry && token.kind != .blockEnd then
      pushState .blockSequenceEntry
      nodeStep true false
    else
      goTo .blockSequenceEntry
      emptyScalar m
  else if token.kind == .blockEnd then
    popState
    let _ ← popMark
    skipToken
    return (.sequenceEnd, token.start)
  else
    failIn "while parsing a block collection" (← popMark) "did not find expected '-' indicator"
      token.start

/-- Parses an entry of a sequence written without indentation under a mapping key. -/
def indentlessSequenceEntryStep : ParseM (Event × Mark) := do
  let token ← peek
  if token.kind == .blockEntry then
    let m := token.stop
    skipToken
    let token ← peek
    if token.kind != .blockEntry && token.kind != .key && token.kind != .value &&
        token.kind != .blockEnd then
      pushState .indentlessSequenceEntry
      nodeStep true false
    else
      goTo .indentlessSequenceEntry
      emptyScalar m
  else
    popState
    return (.sequenceEnd, token.start)

/-- Parses a key of a block mapping, or its end. -/
def blockMappingKeyStep (first : Bool) : ParseM (Event × Mark) := do
  if first then
    pushMark (← peek).start
    skipToken
  let token ← peek
  if token.kind == .key then
    let m := token.stop
    skipToken
    let token ← peek
    if token.kind != .key && token.kind != .value && token.kind != .blockEnd then
      pushState .blockMappingValue
      nodeStep true true
    else
      goTo .blockMappingValue
      emptyScalar m
  else if token.kind == .blockEnd then
    popState
    let _ ← popMark
    skipToken
    return (.mappingEnd, token.start)
  else
    failIn "while parsing a block mapping" (← popMark) "did not find expected key" token.start

/-- Parses a value of a block mapping; a missing one is empty. -/
def blockMappingValueStep : ParseM (Event × Mark) := do
  let token ← peek
  if token.kind == .value then
    let m := token.stop
    skipToken
    let token ← peek
    if token.kind != .key && token.kind != .value && token.kind != .blockEnd then
      pushState .blockMappingKey
      nodeStep true true
    else
      goTo .blockMappingKey
      emptyScalar m
  else
    goTo .blockMappingKey
    emptyScalar token.start

/-- Parses an entry of a flow sequence, or its end; `key: value` in it is a one-pair mapping. -/
def flowSequenceEntryStep (first : Bool) : ParseM (Event × Mark) := do
  if first then
    pushMark (← peek).start
    skipToken
  let mut token ← peek
  if token.kind != .flowSequenceEnd then
    if !first then
      if token.kind == .flowEntry then
        skipToken
        token ← peek
      else
        failIn "while parsing a flow sequence" (← popMark) "did not find expected ',' or ']'"
          token.start
    if token.kind == .key then
      goTo .flowSequenceEntryMappingKey
      skipToken
      return (.mappingStart none none, token.start)
    else if token.kind != .flowSequenceEnd then
      pushState .flowSequenceEntry
      return ← nodeStep false false
  popState
  let _ ← popMark
  skipToken
  return (.sequenceEnd, token.start)

/-- Parses the key of a one-pair mapping inside a flow sequence. -/
def flowSequenceEntryMappingKeyStep : ParseM (Event × Mark) := do
  let token ← peek
  if token.kind != .value && token.kind != .flowEntry && token.kind != .flowSequenceEnd then
    pushState .flowSequenceEntryMappingValue
    nodeStep false false
  else
    let m := token.stop
    skipToken
    goTo .flowSequenceEntryMappingValue
    emptyScalar m

/-- Parses the value of a one-pair mapping inside a flow sequence. -/
def flowSequenceEntryMappingValueStep : ParseM (Event × Mark) := do
  let token ← peek
  if token.kind == .value then
    skipToken
    let token ← peek
    if token.kind != .flowEntry && token.kind != .flowSequenceEnd then
      pushState .flowSequenceEntryMappingEnd
      return ← nodeStep false false
    goTo .flowSequenceEntryMappingEnd
    return ← emptyScalar token.start
  goTo .flowSequenceEntryMappingEnd
  emptyScalar token.start

/-- Parses a key of a flow mapping, or its end. -/
def flowMappingKeyStep (first : Bool) : ParseM (Event × Mark) := do
  if first then
    pushMark (← peek).start
    skipToken
  let mut token ← peek
  if token.kind != .flowMappingEnd then
    if !first then
      if token.kind == .flowEntry then
        skipToken
        token ← peek
      else
        failIn "while parsing a flow mapping" (← popMark) "did not find expected ',' or '\x7d'"
          token.start
    if token.kind == .key then
      skipToken
      let next ← peek
      if next.kind != .value && next.kind != .flowEntry && next.kind != .flowMappingEnd then
        pushState .flowMappingValue
        return ← nodeStep false false
      else
        goTo .flowMappingValue
        return ← emptyScalar next.start
    else if token.kind != .flowMappingEnd then
      pushState .flowMappingEmptyValue
      return ← nodeStep false false
  popState
  let _ ← popMark
  skipToken
  return (.mappingEnd, token.start)

/-- Parses a value of a flow mapping; a missing one is empty. -/
def flowMappingValueStep (empty : Bool) : ParseM (Event × Mark) := do
  let token ← peek
  if empty then
    goTo .flowMappingKey
    return ← emptyScalar token.start
  if token.kind == .value then
    skipToken
    let token ← peek
    if token.kind != .flowEntry && token.kind != .flowMappingEnd then
      pushState .flowMappingKey
      return ← nodeStep false false
    goTo .flowMappingKey
    return ← emptyScalar token.start
  goTo .flowMappingKey
  emptyScalar token.start

/-- Produces the next event. -/
def step : ParseM (Event × Mark) := do
  match (← get).state with
  | .streamStart =>
    let token ← peek
    if token.kind != .streamStart then failAt "did not find expected <stream-start>" token.start
    goTo .implicitDocumentStart
    skipToken
    return (.streamStart, token.start)
  | .implicitDocumentStart => documentStartStep true
  | .documentStart => documentStartStep false
  | .documentContent =>
    let token ← peek
    let isDirective := match token.kind with
      | .versionDirective _ _ | .tagDirective _ _ => true
      | _ => false
    if isDirective || token.kind == .documentStart || token.kind == .documentEnd ||
        token.kind == .streamEnd then
      popState
      emptyScalar token.start
    else nodeStep true false
  | .documentEnd =>
    let token ← peek
    if token.kind == .documentEnd then skipToken
    modify fun p => { p with tagDirectives := [] }
    goTo .documentStart
    return (.documentEnd, token.start)
  | .blockNode => nodeStep true false
  | .blockSequenceFirstEntry => blockSequenceEntryStep true
  | .blockSequenceEntry => blockSequenceEntryStep false
  | .indentlessSequenceEntry => indentlessSequenceEntryStep
  | .blockMappingFirstKey => blockMappingKeyStep true
  | .blockMappingKey => blockMappingKeyStep false
  | .blockMappingValue => blockMappingValueStep
  | .flowSequenceFirstEntry => flowSequenceEntryStep true
  | .flowSequenceEntry => flowSequenceEntryStep false
  | .flowSequenceEntryMappingKey => flowSequenceEntryMappingKeyStep
  | .flowSequenceEntryMappingValue => flowSequenceEntryMappingValueStep
  | .flowSequenceEntryMappingEnd =>
    let token ← peek
    goTo .flowSequenceEntry
    return (.mappingEnd, token.start)
  | .flowMappingFirstKey => flowMappingKeyStep true
  | .flowMappingKey => flowMappingKeyStep false
  | .flowMappingValue => flowMappingValueStep false
  | .flowMappingEmptyValue => flowMappingValueStep true
  | .finished => return (.streamEnd, ⟨0, 0, 0⟩)

end Parser

/-- The events of a YAML text, each with the mark where it starts, up to the end of the
stream or to the syntax error that stops them. -/
structure EventStream where
  events : Array (Event × Mark)
  failure : Option SyntaxError

/-- Parses a text into events. -/
def parseEvents (text : String) : EventStream :=
  let stream := scan text
  let bound := 4 * stream.tokens.size + 8
  let collect : StateM Parser (Array (Event × Mark) × Option SyntaxError) := do
    let mut events := #[]
    for _ in [0:bound] do
      if (← get).state == .finished then break
      match ← (Parser.step).run with
      | .ok event => events := events.push event
      | .error e => return (events, some e)
    return (events, none)
  let ((events, failure), _) := collect.run { stream }
  ⟨events, failure⟩

end FlatProjection.Yaml
