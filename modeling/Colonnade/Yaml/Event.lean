import Colonnade.Yaml.Token.Lexer
/-!
# Events of a YAML text

A grammar reads tokens into events; its state says what may come next, with a stack of states to
return to and one of the places where open collections began.
-/

namespace Colonnade.Yaml

/-- The kinds of event. A scalar says whether, without a tag, its type is to be told from its
text (`plainImplicit`) or it is a text (`quotedImplicit`). -/
inductive EventKind where
  | streamStart
  | streamEnd
  | documentStart (explicit : Bool)
  | documentEnd (explicit : Bool)
  | alias (anchor : String)
  | scalar (anchor tag : Option String) (plainImplicit quotedImplicit : Bool) (text : String)
      (style : Option Char) (unpaired : Bool)
  | sequenceStart (anchor tag : Option String)
  | sequenceEnd
  | mappingStart (anchor tag : Option String)
  | mappingEnd
  deriving Repr, Inhabited

/-- An event with the places where it begins and ends. -/
structure Event where
  kind : EventKind
  start : Mark
  stop : Mark
  deriving Repr, Inhabited

/-- What the grammar expects next. -/
inductive ParseState where
  | streamStart
  | implicitDocumentStart
  | documentStart
  | documentEnd
  | documentContent
  | blockNode
  | blockNodeOrIndentlessSequence
  | flowNode
  | blockSequenceFirstEntry
  | blockSequenceEntry
  | indentlessSequenceEntry
  | blockMappingFirstKey
  | blockMappingKey
  | blockMappingValue
  | flowSequenceFirstEntry
  | flowSequenceEntry (first : Bool)
  | flowSequenceEntryMappingKey
  | flowSequenceEntryMappingValue
  | flowSequenceEntryMappingEnd
  | flowMappingFirstKey
  | flowMappingKey (first : Bool)
  | flowMappingValue
  | flowMappingEmptyValue
  deriving Repr, Inhabited

def defaultTagHandles : List (String × String) := [("!", "!"), ("!!", "tag:yaml.org,2002:")]

/-- The state of reading events. -/
structure Parser where
  lexer : Lexer
  current : Option Event := none
  state : Option ParseState := some .streamStart
  states : List ParseState := []
  marks : List Mark := []
  tagHandles : List (String × String) := defaultTagHandles
  deriving Inhabited

abbrev ParseM := StateT Parser (Except Failure)

namespace ParseM

def lex {α : Type} (x : LexM α) : ParseM α := fun p => do
  let (a, l) ← x p.lexer
  return (a, { p with lexer := l })

def peekToken : ParseM Token := lex LexM.peekToken

def nextToken : ParseM Token := lex LexM.nextToken

/-- Whether the next token is of one of the kinds named. -/
def nextIs (names : List String) : ParseM Bool := do
  return names.contains (← peekToken).kind.name

def goTo (s : ParseState) : ParseM Unit := modify fun p => { p with state := some s }

def pushState (s : ParseState) : ParseM Unit := modify fun p => { p with states := s :: p.states }

def popState : ParseM Unit := modify fun p => match p.states with
  | s :: rest => { p with state := some s, states := rest }
  | [] => { p with state := none }

def pushMark (m : Mark) : ParseM Unit := modify fun p => { p with marks := m :: p.marks }

def popMark : ParseM Unit := modify fun p => { p with marks := p.marks.drop 1 }

def topMark : ParseM Mark := return (← get).marks.headD default

def fail {α : Type} (context : Option String) (contextMark : Option Mark) (problem : String)
    (problemMark : Mark) : ParseM α :=
  throw (.form context contextMark problem (some problemMark))

def emptyScalar (m : Mark) : Event := ⟨.scalar none none true false "" none false, m, m⟩

/-- Reads the directives before a document, setting its tag handles. -/
def directives : ParseM Unit := do
  let mut version : Option (Nat × Nat) := none
  let mut handles : List (String × String) := []
  for _ in [0:(← get).lexer.chars.size + 2] do
    if !(← nextIs ["<directive>"]) then break
    let t ← nextToken
    match t.kind with
    | .directive "YAML" (.version major minor) =>
      if version.isSome then fail none none "found duplicate YAML directive" t.start
      if major != 1 then
        fail none none "found incompatible YAML document (version 1.* is required)" t.start
      version := some (major, minor)
    | .directive "TAG" (.tag handle pfx) =>
      if (handles.lookup handle).isSome then
        fail none none s!"duplicate tag handle {Text.quoted handle}" t.start
      handles := handles ++ [(handle, pfx)]
    | _ => pure ()
  let defaults := defaultTagHandles.filter fun (h, _) => (handles.lookup h).isNone
  modify fun p => { p with tagHandles := handles ++ defaults }

/-- Reads a document's start after any extra document ends, or the stream's end. -/
def documentStart : ParseM Event := do
  for _ in [0:(← get).lexer.chars.size + 2] do
    if ← nextIs ["<document end>"] then discard nextToken else break
  if !(← nextIs ["<stream end>"]) then
    let start := (← peekToken).start
    directives
    if !(← nextIs ["<document start>"]) then
      let t ← peekToken
      fail none none s!"expected '<document start>', but found {Text.quoted t.kind.name}" t.start
    let t ← nextToken
    pushState .documentEnd
    goTo .documentContent
    return ⟨.documentStart true, start, t.stop⟩
  else
    let t ← nextToken
    modify fun p => { p with state := none }
    return ⟨.streamEnd, t.start, t.stop⟩

/-- Reads a node: an alias, or an optional anchor and tag before a scalar or a collection. -/
def node (block indentlessSequence : Bool) : ParseM Event := do
  if ← nextIs ["<alias>"] then
    let t ← nextToken
    popState
    match t.kind with
    | .alias name => return ⟨.alias name, t.start, t.stop⟩
    | _ => return ⟨.alias "", t.start, t.stop⟩
  let mut anchor : Option String := none
  let mut tagParts : Option (Option String × String) := none
  let mut start : Option Mark := none
  let mut stop : Option Mark := none
  let mut tagMark : Option Mark := none
  if ← nextIs ["<anchor>"] then
    let t ← nextToken
    start := some t.start
    stop := some t.stop
    if let .anchor a := t.kind then anchor := some a
    if ← nextIs ["<tag>"] then
      let t ← nextToken
      tagMark := some t.start
      stop := some t.stop
      if let .tag h s := t.kind then tagParts := some (h, s)
  else if ← nextIs ["<tag>"] then
    let t ← nextToken
    start := some t.start
    tagMark := some t.start
    stop := some t.stop
    if let .tag h s := t.kind then tagParts := some (h, s)
    if ← nextIs ["<anchor>"] then
      let t ← nextToken
      stop := some t.stop
      if let .anchor a := t.kind then anchor := some a
  let mut tag : Option String := none
  match tagParts with
  | some (some handle, suffix) =>
    match (← get).tagHandles.lookup handle with
    | some pfx => tag := some (pfx ++ suffix)
    | none =>
      fail (some "while parsing a node") start s!"found undefined tag handle {Text.quoted handle}"
        (tagMark.getD default)
  | some (none, suffix) => tag := some suffix
  | none => pure ()
  let (startMark, stopMark) ← match start, stop with
    | some a, some b => pure (a, b)
    | _, _ => do
      let m := (← peekToken).start
      pure (m, m)
  let implicit := tag.isNone || tag == some "!"
  if indentlessSequence && (← nextIs ["-"]) then
    let t ← peekToken
    goTo .indentlessSequenceEntry
    return ⟨.sequenceStart anchor tag, startMark, t.stop⟩
  let t ← peekToken
  match t.kind with
  | .scalar text plain style unpaired =>
    discard nextToken
    let (pi, qi) :=
      if (plain && tag.isNone) || tag == some "!" then (true, false)
      else if tag.isNone then (false, true)
      else (false, false)
    popState
    return ⟨.scalar anchor tag pi qi text style unpaired, startMark, t.stop⟩
  | .flowSequenceStart =>
    goTo .flowSequenceFirstEntry
    return ⟨.sequenceStart anchor tag, startMark, t.stop⟩
  | .flowMappingStart =>
    goTo .flowMappingFirstKey
    return ⟨.mappingStart anchor tag, startMark, t.stop⟩
  | .blockSequenceStart =>
    if block then
      goTo .blockSequenceFirstEntry
      return ⟨.sequenceStart anchor tag, startMark, t.start⟩
  | .blockMappingStart =>
    if block then
      goTo .blockMappingFirstKey
      return ⟨.mappingStart anchor tag, startMark, t.start⟩
  | _ => pure ()
  if anchor.isSome || tag.isSome then
    popState
    return ⟨.scalar anchor tag implicit false "" none false, startMark, stopMark⟩
  let what := if block then "block" else "flow"
  fail (some s!"while parsing a {what} node") (some startMark)
    s!"expected the node content, but found {Text.quoted t.kind.name}" t.start

def blockSequenceEntry : ParseM Event := do
  if ← nextIs ["-"] then
    let t ← nextToken
    if !(← nextIs ["-", "<block end>"]) then
      pushState .blockSequenceEntry
      node true false
    else
      goTo .blockSequenceEntry
      return emptyScalar t.stop
  else
    if !(← nextIs ["<block end>"]) then
      let t ← peekToken
      fail (some "while parsing a block collection") (some (← topMark))
        s!"expected <block end>, but found {Text.quoted t.kind.name}" t.start
    let t ← nextToken
    popState
    popMark
    return ⟨.sequenceEnd, t.start, t.stop⟩

/-- Reads an entry of a sequence written without indentation as a mapping's value. -/
def indentlessSequenceEntry : ParseM Event := do
  if ← nextIs ["-"] then
    let t ← nextToken
    if !(← nextIs ["-", "?", ":", "<block end>"]) then
      pushState .indentlessSequenceEntry
      node true false
    else
      goTo .indentlessSequenceEntry
      return emptyScalar t.stop
  else
    let t ← peekToken
    popState
    return ⟨.sequenceEnd, t.start, t.start⟩

def blockMappingKey : ParseM Event := do
  if ← nextIs ["?"] then
    let t ← nextToken
    if !(← nextIs ["?", ":", "<block end>"]) then
      pushState .blockMappingValue
      node true true
    else
      goTo .blockMappingValue
      return emptyScalar t.stop
  else
    if !(← nextIs ["<block end>"]) then
      let t ← peekToken
      fail (some "while parsing a block mapping") (some (← topMark))
        s!"expected <block end>, but found {Text.quoted t.kind.name}" t.start
    let t ← nextToken
    popState
    popMark
    return ⟨.mappingEnd, t.start, t.stop⟩

/-- Reads a value of a block mapping; a value left out is empty. -/
def blockMappingValue : ParseM Event := do
  if ← nextIs [":"] then
    let t ← nextToken
    if !(← nextIs ["?", ":", "<block end>"]) then
      pushState .blockMappingKey
      node true true
    else
      goTo .blockMappingKey
      return emptyScalar t.stop
  else
    goTo .blockMappingKey
    return emptyScalar (← peekToken).start

def flowSequenceEntry (first : Bool) : ParseM Event := do
  if !(← nextIs ["]"]) then
    if !first then
      if ← nextIs [","] then discard nextToken
      else
        let t ← peekToken
        fail (some "while parsing a flow sequence") (some (← topMark))
          s!"expected ',' or ']', but got {Text.quoted t.kind.name}" t.start
    if ← nextIs ["?"] then
      let t ← peekToken
      goTo .flowSequenceEntryMappingKey
      return ⟨.mappingStart none none, t.start, t.stop⟩
    else if !(← nextIs ["]"]) then
      pushState (.flowSequenceEntry false)
      return ← node false false
  let t ← nextToken
  popState
  popMark
  return ⟨.sequenceEnd, t.start, t.stop⟩

/-- Reads the key of a single pair inside a flow sequence. -/
def flowSequenceEntryMappingKey : ParseM Event := do
  let t ← nextToken
  if !(← nextIs [":", ",", "]"]) then
    pushState .flowSequenceEntryMappingValue
    node false false
  else
    goTo .flowSequenceEntryMappingValue
    return emptyScalar t.stop

/-- Reads the value of a single pair inside a flow sequence. -/
def flowSequenceEntryMappingValue : ParseM Event := do
  if ← nextIs [":"] then
    let t ← nextToken
    if !(← nextIs [",", "]"]) then
      pushState .flowSequenceEntryMappingEnd
      node false false
    else
      goTo .flowSequenceEntryMappingEnd
      return emptyScalar t.stop
  else
    goTo .flowSequenceEntryMappingEnd
    return emptyScalar (← peekToken).start

/-- Ends a single pair inside a flow sequence. -/
def flowSequenceEntryMappingEnd : ParseM Event := do
  goTo (.flowSequenceEntry false)
  let t ← peekToken
  return ⟨.mappingEnd, t.start, t.start⟩

def flowMappingKey (first : Bool) : ParseM Event := do
  if !(← nextIs ["\x7d"]) then
    if !first then
      if ← nextIs [","] then discard nextToken
      else
        let t ← peekToken
        fail (some "while parsing a flow mapping") (some (← topMark))
          s!"expected ',' or '\x7d', but got {Text.quoted t.kind.name}" t.start
    if ← nextIs ["?"] then
      let t ← nextToken
      if !(← nextIs [":", ",", "\x7d"]) then
        pushState .flowMappingValue
        return ← node false false
      else
        goTo .flowMappingValue
        return emptyScalar t.stop
    else if !(← nextIs ["\x7d"]) then
      pushState .flowMappingEmptyValue
      return ← node false false
  let t ← nextToken
  popState
  popMark
  return ⟨.mappingEnd, t.start, t.stop⟩

/-- Reads a value of a flow mapping; a value left out is empty. -/
def flowMappingValue : ParseM Event := do
  if ← nextIs [":"] then
    let t ← nextToken
    if !(← nextIs [",", "\x7d"]) then
      pushState (.flowMappingKey false)
      node false false
    else
      goTo (.flowMappingKey false)
      return emptyScalar t.stop
  else
    goTo (.flowMappingKey false)
    return emptyScalar (← peekToken).start

def step : ParseState → ParseM Event
  | .streamStart => do
    let t ← nextToken
    goTo .implicitDocumentStart
    return ⟨.streamStart, t.start, t.stop⟩
  | .implicitDocumentStart => do
    if !(← nextIs ["<directive>", "<document start>", "<stream end>"]) then
      modify fun p => { p with tagHandles := defaultTagHandles }
      let m := (← peekToken).start
      pushState .documentEnd
      goTo .blockNode
      return ⟨.documentStart false, m, m⟩
    else documentStart
  | .documentStart => documentStart
  | .documentEnd => do
    let t ← peekToken
    let mut stop := t.start
    let mut explicit := false
    if ← nextIs ["<document end>"] then
      let t ← nextToken
      stop := t.stop
      explicit := true
    goTo .documentStart
    return ⟨.documentEnd explicit, t.start, stop⟩
  | .documentContent => do
    if ← nextIs ["<directive>", "<document start>", "<document end>", "<stream end>"] then
      let e := emptyScalar (← peekToken).start
      popState
      return e
    else node true false
  | .blockNode => node true false
  | .blockNodeOrIndentlessSequence => node true true
  | .flowNode => node false false
  | .blockSequenceFirstEntry => do
    pushMark (← nextToken).start
    blockSequenceEntry
  | .blockSequenceEntry => blockSequenceEntry
  | .indentlessSequenceEntry => indentlessSequenceEntry
  | .blockMappingFirstKey => do
    pushMark (← nextToken).start
    blockMappingKey
  | .blockMappingKey => blockMappingKey
  | .blockMappingValue => blockMappingValue
  | .flowSequenceFirstEntry => do
    pushMark (← nextToken).start
    flowSequenceEntry true
  | .flowSequenceEntry first => flowSequenceEntry first
  | .flowSequenceEntryMappingKey => flowSequenceEntryMappingKey
  | .flowSequenceEntryMappingValue => flowSequenceEntryMappingValue
  | .flowSequenceEntryMappingEnd => flowSequenceEntryMappingEnd
  | .flowMappingFirstKey => do
    pushMark (← nextToken).start
    flowMappingKey true
  | .flowMappingKey first => flowMappingKey first
  | .flowMappingValue => flowMappingValue
  | .flowMappingEmptyValue => do
    goTo (.flowMappingKey false)
    return emptyScalar (← peekToken).start

/-- The next event, left in place; the stream's end once the stream is over. -/
def peekEvent : ParseM Event := do
  match (← get).current with
  | some e => return e
  | none =>
    match (← get).state with
    | some s =>
      let e ← step s
      modify fun p => { p with current := some e }
      return e
    | none => return default

def nextEvent : ParseM Event := do
  let e ← peekEvent
  modify fun p => { p with current := none }
  return e

end ParseM

end Colonnade.Yaml
