import Colonnade.Yaml.Event
/-!
# Nodes of a YAML text

Events gathered into a tree of scalars, sequences and mappings, each tagged; a plain scalar's tag
is resolved by the rules of YAML 1.1. An alias inside the collection its anchor names makes a
cycle, and a stream holds at most one document.
-/

namespace Colonnade.Yaml

def tagOf (name : String) : String := "tag:yaml.org,2002:" ++ name

/-- The three kinds of node. -/
inductive NodeKind where
  | scalar
  | sequence
  | mapping
  deriving DecidableEq, Repr, Inhabited

def NodeKind.name : NodeKind → String
  | .scalar => "scalar"
  | .sequence => "sequence"
  | .mapping => "mapping"

/-- A node: its number (the same for every alias of it), its tag, its content and where it
begins. A cycle stands for a collection that holds itself. -/
inductive Node where
  | scalar (id : Nat) (tag : String) (text : String) (style : Option Char) (unpaired : Bool)
      (start : Mark)
  | sequence (id : Nat) (tag : String) (items : List Node) (start : Mark)
  | mapping (id : Nat) (tag : String) (pairs : List (Node × Node)) (start : Mark)
  | cycle (id : Nat) (kind : NodeKind) (tag : String) (start : Mark)
  deriving Repr, Inhabited

namespace Node

def id : Node → Nat
  | .scalar i .. | .sequence i .. | .mapping i .. | .cycle i .. => i

def tag : Node → String
  | .scalar _ t .. | .sequence _ t .. | .mapping _ t .. | .cycle _ _ t _ => t

def start : Node → Mark
  | .scalar _ _ _ _ _ m | .sequence _ _ _ m | .mapping _ _ _ m | .cycle _ _ _ m => m

def kind : Node → NodeKind
  | .scalar .. => .scalar
  | .sequence .. => .sequence
  | .mapping .. => .mapping
  | .cycle _ k _ _ => k

def withTag (t : String) : Node → Node
  | .scalar i _ x s u m => .scalar i t x s u m
  | .sequence i _ xs m => .sequence i t xs m
  | .mapping i _ ps m => .mapping i t ps m
  | .cycle i k _ m => .cycle i k t m

end Node

/-! ## Telling a plain scalar's tag -/

def isDigit (c : Char) : Bool := '0' ≤ c && c ≤ '9'

def dropSign : List Char → List Char
  | '-' :: r | '+' :: r => r
  | r => r

/-- Characters after a leading run of digits and underscores. -/
def dropDigitMarks (cs : List Char) : List Char := cs.dropWhile fun c => isDigit c || c == '_'

/-- What follows an exponent `e` or `E`, a sign and digits, if one leads. -/
def afterExponent? : List Char → Option (List Char)
  | e :: s :: d :: rest =>
    if (e == 'e' || e == 'E') && (s == '-' || s == '+') && isDigit d then
      some (rest.dropWhile isDigit)
    else none
  | _ => none

/-- Whether characters end here, or with an optional exponent. -/
def endsWithExponent (cs : List Char) : Bool :=
  cs.isEmpty || afterExponent? cs == some []

/-- What follows a run of sexagesimal parts `:d` or `:dd` (the first digit of two below 6), if
at least one leads. -/
def afterSexagesimal? (cs : List Char) : Option (List Char) :=
  go cs.length cs false
where
  go : Nat → List Char → Bool → Option (List Char)
    | 0, cs, found => if found then some cs else none
    | fuel + 1, cs, found =>
      match cs with
      | ':' :: rest =>
        let ds := rest.takeWhile isDigit
        let ok := ds.length == 1 || (ds.length == 2 && ds.head? != none && (ds.headD '0') ≤ '5')
        if ok then go fuel (rest.drop ds.length) true
        else if found then some cs else none
      | _ => if found then some cs else none

/-- Whether a text has the form of a float of YAML 1.1. -/
def isFloatForm (cs : List Char) : Bool :=
  let body := dropSign cs
  let signed := body.length != cs.length
  -- digits, a point, digits and an optional exponent
  let decimal := match body with
    | d :: rest =>
      isDigit d && (match dropDigitMarks rest with
        | '.' :: frac => endsWithExponent (dropDigitMarks frac)
        | _ => false)
    | [] => false
  -- a point and digits with an optional exponent, unsigned
  let fraction := !signed && (match body with
    | '.' :: d :: rest => isDigit d && endsWithExponent (dropDigitMarks rest)
    | _ => false)
  -- sexagesimal parts and a fraction
  let sexagesimal := match body with
    | d :: rest =>
      isDigit d && (match afterSexagesimal? (dropDigitMarks rest) with
        | some ('.' :: frac) => (dropDigitMarks frac).isEmpty
        | _ => false)
    | [] => false
  let infinity := [".inf", ".Inf", ".INF"].contains (String.ofList body)
  let notNumber := !signed && [".nan", ".NaN", ".NAN"].contains (String.ofList body)
  decimal || fraction || sexagesimal || infinity || notNumber

/-- Whether a text has the form of an integer of YAML 1.1. -/
def isIntForm (cs : List Char) : Bool :=
  let body := dropSign cs
  let isBinary := fun (c : Char) => c == '0' || c == '1' || c == '_'
  let isOctal := fun (c : Char) => ('0' ≤ c && c ≤ '7') || c == '_'
  let isHex := fun (c : Char) =>
    isDigit c || ('a' ≤ c && c ≤ 'f') || ('A' ≤ c && c ≤ 'F') || c == '_'
  match body with
  | '0' :: 'b' :: rest => !rest.isEmpty && rest.all isBinary
  | '0' :: 'x' :: rest => !rest.isEmpty && rest.all isHex
  | ['0'] => true
  | '0' :: rest => rest.all isOctal
  | d :: rest =>
    '1' ≤ d && d ≤ '9' &&
      (let tail := dropDigitMarks rest
       tail.isEmpty || afterSexagesimal? tail == some [])
  | [] => false

def isTimestampForm (cs : List Char) : Bool :=
  let digitsThen := fun (n : Nat) (cs : List Char) =>
    if (cs.take n).length == n && (cs.take n).all isDigit then some (cs.drop n) else none
  let oneOrTwo := fun (cs : List Char) =>
    match cs with
    | a :: b :: rest => if isDigit a then some (if isDigit b then rest else b :: rest) else none
    | [a] => if isDigit a then some [] else none
    | [] => none
  let isBlankChar := fun (c : Char) => c == ' ' || c == '\t'
  let dateOnly := (do
    let r ← digitsThen 4 cs
    let r ← (match r with | '-' :: r => some r | _ => none)
    let r ← digitsThen 2 r
    let r ← (match r with | '-' :: r => some r | _ => none)
    digitsThen 2 r) == some []
  let full := (do
    let r ← digitsThen 4 cs
    let r ← (match r with | '-' :: r => some r | _ => none)
    let r ← oneOrTwo r
    let r ← (match r with | '-' :: r => some r | _ => none)
    let r ← oneOrTwo r
    let r ← (match r with
      | 'T' :: r | 't' :: r => some r
      | c :: r => if isBlankChar c then some (r.dropWhile isBlankChar) else none
      | [] => none)
    let r ← oneOrTwo r
    let r ← (match r with | ':' :: r => some r | _ => none)
    let r ← digitsThen 2 r
    let r ← (match r with | ':' :: r => some r | _ => none)
    let r ← digitsThen 2 r
    let r := match r with
      | '.' :: r => r.dropWhile isDigit
      | _ => r
    if r.isEmpty then some [] else
    let r := r.dropWhile isBlankChar
    match r with
    | ['Z'] => some []
    | s :: r =>
      if s == '-' || s == '+' then do
        let r ← oneOrTwo r
        match r with
        | [] => some []
        | ':' :: r => digitsThen 2 r
        | _ => none
      else none
    | [] => none) == some []
  dateOnly || full

/-- Whether a pattern holds of a whole text, or of the text without one final line feed. -/
def wholeOrBeforeBreak (p : List Char → Bool) (cs : List Char) : Bool :=
  p cs || (cs.getLast? == some '\n' && p cs.dropLast)

/-- The tags that a plain scalar may have by its first character, in the order they are tried,
each with the pattern its text must match. -/
def candidateTags (first : Option Char) : List (String × (List Char → Bool)) :=
  let bool := ("bool", fun cs => ["yes", "Yes", "YES", "no", "No", "NO", "true", "True", "TRUE",
    "false", "False", "FALSE", "on", "On", "ON", "off", "Off", "OFF"].contains (String.ofList cs))
  let float := ("float", isFloatForm)
  let int := ("int", isIntForm)
  let null := ("null", fun cs => ["~", "null", "Null", "NULL", ""].contains (String.ofList cs))
  let timestamp := ("timestamp", isTimestampForm)
  match first with
  | none => [null]
  | some c =>
    if "yYtTfFoO".toList.contains c then [bool]
    else if c == 'n' || c == 'N' then [bool, null]
    else if c == '~' then [null]
    else if c == '-' || c == '+' then [float, int]
    else if c == '.' then [float]
    else if isDigit c then [float, int, timestamp]
    else if c == '<' then [("merge", fun cs => cs == ['<', '<'])]
    else if c == '=' then [("value", fun cs => cs == ['='])]
    else if c == '!' || c == '&' || c == '*' then [("yaml", fun cs => cs.length == 1)]
    else []

/-- The tag of a scalar without one: told from its text when it is plain, a text otherwise. -/
def scalarTag (text : String) (plainImplicit : Bool) : String :=
  if plainImplicit then
    let cs := text.toList
    match (candidateTags cs.head?).find? fun (_, p) => wholeOrBeforeBreak p cs with
    | some (name, _) => tagOf name
    | none => tagOf "str"
  else tagOf "str"

/-! ## Gathering nodes -/

/-- What an anchor names: a finished node, or a collection still being gathered. -/
inductive Anchored where
  | done (n : Node)
  | gathering (id : Nat) (kind : NodeKind) (tag : String) (start : Mark)
  deriving Inhabited

def Anchored.start : Anchored → Mark
  | .done n => n.start
  | .gathering _ _ _ m => m

/-- The state of gathering nodes. -/
structure Composer where
  parser : Parser
  anchors : List (String × Anchored) := []
  nextId : Nat := 0
  deriving Inhabited

abbrev ComposeM := StateT Composer (Except Failure)

namespace ComposeM

def parse {α : Type} (x : ParseM α) : ComposeM α := fun c => do
  let (a, p) ← x c.parser
  return (a, { c with parser := p })

def peekEvent : ComposeM Event := parse ParseM.peekEvent

def nextEvent : ComposeM Event := parse ParseM.nextEvent

def fresh : ComposeM Nat := modifyGet fun c => (c.nextId, { c with nextId := c.nextId + 1 })

def setAnchor (anchor : Option String) (a : Anchored) : ComposeM Unit :=
  match anchor with
  | some name => modify fun c => { c with anchors := (name, a) :: c.anchors.filter (·.1 != name) }
  | none => pure ()

/-- A bound on the number of events of the text. -/
def budget : ComposeM Nat := return 4 * (← get).parser.lexer.chars.size + 8

/-- Whether the next event is an end of a collection. -/
def atEnd : ComposeM Bool := do
  return match (← peekEvent).kind with
    | .sequenceEnd | .mappingEnd => true
    | _ => false

def anchorOf : EventKind → Option String
  | .scalar a .. | .sequenceStart a _ | .mappingStart a _ => a
  | _ => none

/-- Gathers a node from its events; `fuel` bounds the depth. -/
def node : Nat → ComposeM Node
  | 0 => throw (.form none none "too deeply nested" none)
  | fuel + 1 => do
    let e ← peekEvent
    if let .alias name := e.kind then
      discard nextEvent
      match (← get).anchors.lookup name with
      | some (.done n) => return n
      | some (.gathering i k t m) => return .cycle i k t m
      | none => throw (.form none none s!"found undefined alias {Text.quoted name}" (some e.start))
    let anchor := anchorOf e.kind
    if let some name := anchor then
      if let some a := (← get).anchors.lookup name then
        throw (.form (some s!"found duplicate anchor {Text.quoted name}; first occurrence")
          (some a.start) "second occurrence" (some e.start))
    match e.kind with
    | .scalar _ tag pi _ text style unpaired =>
      discard nextEvent
      let tag := match tag with
        | none | some "!" => scalarTag text pi
        | some t => t
      let n := Node.scalar (← fresh) tag text style unpaired e.start
      setAnchor anchor (.done n)
      return n
    | .sequenceStart _ tag =>
      discard nextEvent
      let tag := match tag with
        | none | some "!" => tagOf "seq"
        | some t => t
      let i ← fresh
      setAnchor anchor (.gathering i .sequence tag e.start)
      let mut items : Array Node := #[]
      for _ in [0:← budget] do
        if ← atEnd then break
        items := items.push (← node fuel)
      discard nextEvent
      let n := Node.sequence i tag items.toList e.start
      setAnchor anchor (.done n)
      return n
    | .mappingStart _ tag =>
      discard nextEvent
      let tag := match tag with
        | none | some "!" => tagOf "map"
        | some t => t
      let i ← fresh
      setAnchor anchor (.gathering i .mapping tag e.start)
      let mut pairs : Array (Node × Node) := #[]
      for _ in [0:← budget] do
        if ← atEnd then break
        let k ← node fuel
        let v ← node fuel
        pairs := pairs.push (k, v)
      discard nextEvent
      let n := Node.mapping i tag pairs.toList e.start
      setAnchor anchor (.done n)
      return n
    | _ => throw (.form none none "expected a node" (some e.start))

/-- The one document of a stream as a node, or none for an empty stream. -/
def single : ComposeM (Option Node) := do
  discard nextEvent
  let mut doc : Option Node := none
  if !(match (← peekEvent).kind with | .streamEnd => true | _ => false) then
    discard nextEvent
    doc := some (← node (← budget))
    discard nextEvent
    modify fun c => { c with anchors := [] }
  if !(match (← peekEvent).kind with | .streamEnd => true | _ => false) then
    let e ← nextEvent
    throw (.form (some "expected a single document in the stream") (doc.map (·.start))
      "but found another document" (some e.start))
  discard nextEvent
  return doc

end ComposeM

/-- Checks that no character of a text is one that may not stand in YAML: controls other than
tab, line feed, carriage return and next line, and the non-characters U+FFFE and U+FFFF. -/
def unacceptable? (text : String) : Option Failure :=
  let bad := fun (c : Char) =>
    let n := c.toNat
    !(n == 0x09 || n == 0x0A || n == 0x0D || (0x20 ≤ n && n ≤ 0x7E) || n == 0x85 ||
      (0xA0 ≤ n && n ≤ 0xD7FF) || (0xE000 ≤ n && n ≤ 0xFFFD) || 0x10000 ≤ n)
  (text.toList.zipIdx.find? fun (c, _) => bad c).map fun (c, i) => .unacceptable c.toNat i

/-- The node of the one document of a YAML text, or none for an empty stream. -/
def Node.ofText? (text : String) : Except Failure (Option Node) :=
  match unacceptable? text with
  | some f => .error f
  | none => (ComposeM.single.run { parser := { lexer := Lexer.init text } }).map (·.1)

end Colonnade.Yaml
