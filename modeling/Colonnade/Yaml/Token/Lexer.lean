import Colonnade.Yaml.Token
/-!
# Cutting a YAML text into tokens

Tokens are read on demand. A simple key is known only at the `:` after it, so the lexer notes where
one may begin at each flow level and puts the key token back in front of the queue when the `:`
comes. Indentation opens and closes blocks outside flows.
-/

namespace Colonnade.Yaml

/-- A place where a key written without `?` may begin: the number of the token it would come
before, whether it must be a key, and where it is. -/
structure SimpleKey where
  tokenNumber : Nat
  required : Bool
  index : Nat
  line : Nat
  column : Nat
  mark : Mark
  deriving Repr, Inhabited

/-- The state of cutting a text into tokens; a closing bracket with no flow open takes the flow
level below zero. -/
structure Lexer where
  chars : Array Char
  index : Nat := 0
  line : Nat := 0
  column : Nat := 0
  done : Bool := false
  flowLevel : Int := 0
  tokens : List Token := []
  tokensTaken : Nat := 0
  indent : Int := -1
  indents : List Int := []
  allowSimpleKey : Bool := true
  possibleSimpleKeys : List (Int × SimpleKey) := []
  deriving Inhabited

abbrev LexM := StateT Lexer (Except Failure)

def isBreak (c : Char) : Bool :=
  c == '\r' || c == '\n' || c == '\x85' || c == '\u2028' || c == '\u2029'

/-- Whether a character ends a line or the text; the text's end reads as NUL. -/
def isBreakOrEnd (c : Char) : Bool := c == '\x00' || isBreak c

/-- Whether a character is a space, a tab, a line end or the text's end. -/
def isBlankOrEnd (c : Char) : Bool := c == ' ' || c == '\t' || isBreakOrEnd c

/-- Whether a character is a space, a line end or the text's end. -/
def isSpaceOrEnd (c : Char) : Bool := c == ' ' || isBreakOrEnd c

/-- Whether a character may stand in an anchor, a directive's name or a tag handle. -/
def isWordChar (c : Char) : Bool :=
  ('0' ≤ c && c ≤ '9') || ('A' ≤ c && c ≤ 'Z') || ('a' ≤ c && c ≤ 'z') || c == '-' || c == '_'

def isHexChar (c : Char) : Bool :=
  ('0' ≤ c && c ≤ '9') || ('A' ≤ c && c ≤ 'F') || ('a' ≤ c && c ≤ 'f')

def isUriChar (c : Char) : Bool :=
  ('0' ≤ c && c ≤ '9') || ('A' ≤ c && c ≤ 'Z') || ('a' ≤ c && c ≤ 'z') ||
    "-;/?:@&=+$,_.!~*'()[]%".toList.contains c

def hexValue (c : Char) : Nat :=
  if c ≤ '9' then c.toNat - 48 else if c ≤ 'F' then c.toNat - 55 else c.toNat - 87

def hexNumber (s : String) : Nat := s.toList.foldl (fun n c => 16 * n + hexValue c) 0

def decimalNumber (s : String) : Nat := s.toList.foldl (fun n c => 10 * n + (c.toNat - 48)) 0

namespace Lexer

/-- A lexer at the start of a text, with the stream's start queued. -/
def init (text : String) : Lexer :=
  { chars := text.toList.toArray, tokens := [⟨.streamStart, ⟨0, 0, 0⟩, ⟨0, 0, 0⟩⟩] }

/-- The character `k` places ahead; NUL past the end. -/
def charAt (s : Lexer) (k : Nat) : Char := s.chars.getD (s.index + k) '\x00'

def mark (s : Lexer) : Mark := ⟨s.index, s.line, s.column⟩

/-- Past one character: a line break starts a new line, and a byte order mark takes no column. -/
def advance (s : Lexer) : Lexer :=
  let c := s.charAt 0
  let t := { s with index := s.index + 1 }
  if c == '\n' || c == '\x85' || c == '\u2028' || c == '\u2029' ||
      (c == '\r' && t.charAt 0 != '\n') then
    { t with line := t.line + 1, column := 0 }
  else if c != '\uFEFF' then { t with column := t.column + 1 }
  else t

def advanceBy (s : Lexer) : Nat → Lexer
  | 0 => s
  | n + 1 => (s.advance).advanceBy n

def slice (s : Lexer) (n : Nat) : String :=
  String.ofList (s.chars.extract s.index (s.index + n)).toList

/-- The length of the run of a plain scalar that starts here. It ends at a blank; in a flow at
`,`, `?`, brackets and braces; and at a `:` that a blank (or in a flow, one of `,[]{}`) follows. -/
def plainRun (s : Lexer) : Nat :=
  go (s.chars.size + 1) 0
where
  go : Nat → Nat → Nat
    | 0, k => k
    | fuel + 1, k =>
      let c := s.charAt k
      let flow := s.flowLevel != 0
      let next := s.charAt (k + 1)
      if isBlankOrEnd c || (c == ':' && (isBlankOrEnd next || (flow && ",[]\x7b\x7d".toList.contains next))) ||
          (flow && ",?[]\x7b\x7d".toList.contains c) then k
      else go fuel (k + 1)

/-- The offset of the first character from offset `k` on that fails `p`. -/
def runFrom (s : Lexer) (p : Char → Bool) (k : Nat) : Nat :=
  go (s.chars.size + 1) k
where
  go : Nat → Nat → Nat
    | 0, k => k
    | fuel + 1, k => if p (s.charAt k) then go fuel (k + 1) else k

end Lexer

namespace LexM

/-- The character `k` places ahead. -/
def peek (k : Nat := 0) : LexM Char := return (← get).charAt k

def here : LexM Mark := return (← get).mark

def forward (n : Nat := 1) : LexM Unit := modify (·.advanceBy n)

def take (n : Nat) : LexM String := do
  let s := (← get).slice n
  forward n
  return s

/-- The length of the run of characters from offset `k` that satisfy `p`. -/
def runLength (p : Char → Bool) (k : Nat := 0) : LexM Nat := do
  return (← get).runFrom p k - k

/-- A bound on the steps of any loop over the text. -/
def budget : LexM Nat := return (← get).chars.size + 2

def fail {α : Type} (context : Option String) (contextMark : Option Mark) (problem : String) :
    LexM α := do
  throw (.form context contextMark problem (some (← here)))

def skipWhile (p : Char → Bool) : LexM Unit := do
  forward (← runLength p)

/-- Reads a line break, giving a line feed for the line feed, carriage return and next-line
character and the separator itself for the other two; nothing when no break is here. -/
def lineBreak : LexM String := do
  let c ← peek
  if c == '\r' || c == '\n' || c == '\x85' then
    if c == '\r' && (← peek 1) == '\n' then forward 2 else forward
    return "\n"
  else if c == '\u2028' || c == '\u2029' then
    forward
    return String.singleton c
  else return ""

/-- Whether the next three characters mark a document's start or end. -/
def atSeparator : LexM Bool := do
  let s ← get
  let p := s.slice 3
  return (p == "---" || p == "...") && isBlankOrEnd (s.charAt 3)

/-! ## Keys written without `?` -/

/-- The smallest token number of the places where keys may begin. -/
def nextPossibleSimpleKey : LexM (Option Nat) := do
  return (← get).possibleSimpleKeys.foldl (fun m (_, k) => match m with
    | some n => some (min n k.tokenNumber)
    | none => some k.tokenNumber) none

/-- Forgets the places where keys can no longer begin: on an earlier line or too far back. One
that had to be a key is a fault. -/
def staleSimpleKeys : LexM Unit := do
  let s ← get
  let mut kept := []
  for (level, key) in s.possibleSimpleKeys do
    if key.line != s.line || s.index - key.index > 1024 then
      if key.required then
        throw (.form (some "while scanning a simple key") (some key.mark)
          "could not find expected ':'" (some s.mark))
    else kept := kept ++ [(level, key)]
  set { s with possibleSimpleKeys := kept }

/-- Forgets the place where a key may begin at the current level of flow. -/
def removeSimpleKey : LexM Unit := do
  let s ← get
  match s.possibleSimpleKeys.lookup s.flowLevel with
  | some key =>
    if key.required then
      throw (.form (some "while scanning a simple key") (some key.mark)
        "could not find expected ':'" (some s.mark))
    set { s with possibleSimpleKeys := s.possibleSimpleKeys.filter (·.1 != s.flowLevel) }
  | none => pure ()

def saveSimpleKey : LexM Unit := do
  let s ← get
  let required := s.flowLevel == 0 && s.indent == (s.column : Int)
  if s.allowSimpleKey then
    removeSimpleKey
    let s ← get
    let key : SimpleKey :=
      ⟨s.tokensTaken + s.tokens.length, required, s.index, s.line, s.column, s.mark⟩
    set { s with possibleSimpleKeys := s.possibleSimpleKeys ++ [(s.flowLevel, key)] }

/-! ## Blocks -/

/-- Closes the blocks deeper than a column, outside flows. -/
def unwindIndent (column : Int) : LexM Unit := do
  if (← get).flowLevel != 0 then return
  for _ in [0:(← get).indents.length + 1] do
    let s ← get
    if s.indent > column then
      match s.indents with
      | i :: rest =>
        let t : Token := ⟨.blockEnd, s.mark, s.mark⟩
        set { s with indent := i, indents := rest, tokens := s.tokens ++ [t] }
      | [] => break
    else break

/-- Opens a block at a column further right than the current one; whether it did. -/
def addIndent (column : Int) : LexM Bool := do
  let s ← get
  if s.indent < column then
    set { s with indents := s.indent :: s.indents, indent := column }
    return true
  return false

def push (t : Token) : LexM Unit := modify fun s => { s with tokens := s.tokens ++ [t] }

/-- Queues a one-character token here, moving past it. -/
def pushIndicator (kind : TokenKind) : LexM Unit := do
  let start ← here
  forward
  push ⟨kind, start, ← here⟩

def allowKey (b : Bool) : LexM Unit := modify fun s => { s with allowSimpleKey := b }

/-! ## Skipping to the next token -/

/-- Skips spaces, comments and line breaks; a byte order mark at the very start is skipped too.
After a line break outside flows a key may begin. -/
def skipToToken : LexM Unit := do
  let s ← get
  if s.index == 0 && s.charAt 0 == '\uFEFF' then forward
  for _ in [0:← budget] do
    skipWhile (· == ' ')
    if (← peek) == '#' then skipWhile (fun c => !isBreakOrEnd c)
    if (← lineBreak) != "" then
      if (← get).flowLevel == 0 then allowKey true
    else break

/-! ## Directives -/

def directiveName (start : Mark) : LexM String := do
  let n ← runLength isWordChar
  if n == 0 then
    fail (some "while scanning a directive") (some start)
      s!"expected alphabetic or numeric character, but found {showChar (← peek n)}"
  let name ← take n
  let c ← peek
  if !isSpaceOrEnd c then
    fail (some "while scanning a directive") (some start)
      s!"expected alphabetic or numeric character, but found {showChar c}"
  return name

def versionNumber (start : Mark) : LexM Nat := do
  let c ← peek
  if !('0' ≤ c && c ≤ '9') then
    fail (some "while scanning a directive") (some start) s!"expected a digit, but found {showChar c}"
  let n ← runLength fun d => '0' ≤ d && d ≤ '9'
  return decimalNumber (← take n)

def versionValue (start : Mark) : LexM DirectiveValue := do
  skipWhile (· == ' ')
  let major ← versionNumber start
  if (← peek) != '.' then
    fail (some "while scanning a directive") (some start)
      s!"expected a digit or '.', but found {showChar (← peek)}"
  forward
  let minor ← versionNumber start
  if !isSpaceOrEnd (← peek) then
    fail (some "while scanning a directive") (some start)
      s!"expected a digit or ' ', but found {showChar (← peek)}"
  return .version major minor

/-- Reads the bytes of `%`-escapes in a URI as UTF-8 text. -/
def uriEscapes (name : String) (start : Mark) : LexM String := do
  let mut codes : Array UInt8 := #[]
  let m ← here
  for _ in [0:← budget] do
    if (← peek) != '%' then break
    forward
    for k in [0:2] do
      if !isHexChar (← peek k) then
        fail (some s!"while scanning a {name}") (some start)
          ("expected URI escape sequence of 2 hexadecimal numbers, but found " ++
            showChar (← peek k))
    codes := codes.push (hexNumber (← take 2)).toUInt8
  match String.fromUTF8? ⟨codes⟩ with
  | some s => return s
  | none =>
    throw (.form (some s!"while scanning a {name}") (some start)
      "'utf-8' codec can't decode bytes: invalid data" (some m))

def tagUri (name : String) (start : Mark) : LexM String := do
  let mut chunks : String := ""
  let mut any := false
  for _ in [0:← budget] do
    let n ← runLength fun c => isUriChar c && c != '%'
    if n > 0 then
      chunks := chunks ++ (← take n)
      any := true
    if (← peek) == '%' then
      chunks := chunks ++ (← uriEscapes name start)
      any := true
    else break
  if !any then
    fail (some s!"while parsing a {name}") (some start)
      s!"expected URI, but found {showChar (← peek)}"
  return chunks

/-- Reads a tag handle: `!`, `!!` or `!word!`. -/
def tagHandle (name : String) (start : Mark) : LexM String := do
  let c ← peek
  if c != '!' then
    fail (some s!"while scanning a {name}") (some start) s!"expected '!', but found {showChar c}"
  let mut length := 1
  if (← peek 1) != ' ' then
    length ← runLength isWordChar 1
    length := length + 1
    let c ← peek length
    if c != '!' then
      forward length
      fail (some s!"while scanning a {name}") (some start) s!"expected '!', but found {showChar c}"
    length := length + 1
  take length

def tagDirectiveValue (start : Mark) : LexM DirectiveValue := do
  skipWhile (· == ' ')
  let handle ← tagHandle "directive" start
  if (← peek) != ' ' then
    fail (some "while scanning a directive") (some start)
      s!"expected ' ', but found {showChar (← peek)}"
  skipWhile (· == ' ')
  let pfx ← tagUri "directive" start
  if !isSpaceOrEnd (← peek) then
    fail (some "while scanning a directive") (some start)
      s!"expected ' ', but found {showChar (← peek)}"
  return .tag handle pfx

/-- Reads a directive: `%` and a name, its value, and the rest of its line. -/
def directive : LexM Token := do
  let start ← here
  forward
  let name ← directiveName start
  let (value, stop) ← if name == "YAML" then do
      let v ← versionValue start
      pure (v, ← here)
    else if name == "TAG" then do
      let v ← tagDirectiveValue start
      pure (v, ← here)
    else do
      let m ← here
      skipWhile fun c => !isBreakOrEnd c
      pure (DirectiveValue.none, m)
  skipWhile (· == ' ')
  if (← peek) == '#' then skipWhile fun c => !isBreakOrEnd c
  if !isBreakOrEnd (← peek) then
    fail (some "while scanning a directive") (some start)
      s!"expected a comment or a line break, but found {showChar (← peek)}"
  discard lineBreak
  return ⟨.directive name value, start, stop⟩

/-! ## Anchors, aliases and tags -/

/-- Reads an anchor `&name` or an alias `*name`. -/
def anchorOrAlias (isAlias : Bool) : LexM Token := do
  let start ← here
  let what := if isAlias then "alias" else "anchor"
  forward
  let n ← runLength isWordChar
  if n == 0 then
    fail (some s!"while scanning an {what}") (some start)
      s!"expected alphabetic or numeric character, but found {showChar (← peek)}"
  let name ← take n
  let c ← peek
  if !(isBlankOrEnd c || "?:,]\x7d%@`".toList.contains c) then
    fail (some s!"while scanning an {what}") (some start)
      s!"expected alphabetic or numeric character, but found {showChar c}"
  return ⟨if isAlias then .alias name else .anchor name, start, ← here⟩

/-- Reads a tag: verbatim `!<uri>`, the lone `!`, or a handle and a suffix. -/
def tag : LexM Token := do
  let start ← here
  let c ← peek 1
  let (handle, suffix) ← if c == '<' then do
      forward 2
      let suffix ← tagUri "tag" start
      if (← peek) != '>' then
        fail (some "while parsing a tag") (some start) s!"expected '>', but found {showChar (← peek)}"
      forward
      pure (none, suffix)
    else if isBlankOrEnd c then do
      forward
      pure (none, "!")
    else do
      let n ← runLength (fun d => !isSpaceOrEnd d && d != '!') 1
      let handle ← if (← peek (n + 1)) == '!' && !isSpaceOrEnd (← peek (n + 1)) then
          tagHandle "tag" start
        else do
          forward
          pure "!"
      let suffix ← tagUri "tag" start
      pure (some handle, suffix)
  if !isSpaceOrEnd (← peek) then
    fail (some "while scanning a tag") (some start) s!"expected ' ', but found {showChar (← peek)}"
  return ⟨.tag handle suffix, start, ← here⟩

/-! ## Block scalars -/

/-- Reads the indicators after `|` or `>`: keeping or stripping of the final breaks, and the
indentation step. -/
def blockIndicators (start : Mark) : LexM (Option Bool × Option Nat) := do
  let digit := fun (c : Char) => '0' ≤ c && c ≤ '9'
  let zeroFault : LexM Unit :=
    fail (some "while scanning a block scalar") (some start)
      "expected indentation indicator in the range 1-9, but found 0"
  let mut chomping : Option Bool := none
  let mut increment : Option Nat := none
  let c ← peek
  if c == '+' || c == '-' then
    chomping := some (c == '+')
    forward
    let d ← peek
    if digit d then
      if d == '0' then zeroFault
      increment := some (d.toNat - 48)
      forward
  else if digit c then
    if c == '0' then zeroFault
    increment := some (c.toNat - 48)
    forward
    let d ← peek
    if d == '+' || d == '-' then
      chomping := some (d == '+')
      forward
  let c ← peek
  if !isSpaceOrEnd c then
    fail (some "while scanning a block scalar") (some start)
      s!"expected chomping or indentation indicators, but found {showChar c}"
  return (chomping, increment)

/-- Skips the rest of a block scalar's first line: spaces and a comment. -/
def blockIgnoredLine (start : Mark) : LexM Unit := do
  skipWhile (· == ' ')
  if (← peek) == '#' then skipWhile fun c => !isBreakOrEnd c
  let c ← peek
  if !isBreakOrEnd c then
    fail (some "while scanning a block scalar") (some start)
      s!"expected a comment or a line break, but found {showChar c}"
  discard lineBreak

/-- Reads the empty lines before a block scalar's first line of text, giving their breaks, the
deepest column reached and the place after the last break. -/
def blockIndentation : LexM (List String × Nat × Mark) := do
  let mut chunks : List String := []
  let mut maxIndent := 0
  let mut stop ← here
  for _ in [0:← budget] do
    let c ← peek
    if c == ' ' then
      forward
      let col := (← get).column
      if col > maxIndent then maxIndent := col
    else if isBreak c then
      chunks := chunks ++ [← lineBreak]
      stop ← here
    else break
  return (chunks, maxIndent, stop)

/-- Reads the line breaks and indentation up to the next line of a block scalar at `indent`,
giving the breaks and the place after the last. -/
def blockBreaks (indent : Nat) : LexM (List String × Mark) := do
  let mut chunks : List String := []
  let mut stop ← here
  let skipIndent : LexM Unit := do
    for _ in [0:← budget] do
      if (← get).column < indent && (← peek) == ' ' then forward else break
  skipIndent
  for _ in [0:← budget] do
    if isBreak (← peek) then
      chunks := chunks ++ [← lineBreak]
      stop ← here
      skipIndent
    else break
  return (chunks, stop)

/-- Reads a literal (`|`) or folded (`>`) block scalar. -/
def blockScalar (folded : Bool) : LexM Token := do
  let start ← here
  forward
  let (chomping, increment) ← blockIndicators start
  blockIgnoredLine start
  let minIndent : Nat := ((← get).indent + 1).toNat.max 1
  let (breaks0, indent, stop0) ← match increment with
    | none => do
      let (bs, maxIndent, stop) ← blockIndentation
      pure (bs, max minIndent maxIndent, stop)
    | some inc => do
      let indent := minIndent + inc - 1
      let (bs, stop) ← blockBreaks indent
      pure (bs, indent, stop)
  let mut breaks := breaks0
  let mut stop := stop0
  let mut chunks : String := ""
  let mut lineBreakText := ""
  for _ in [0:← budget] do
    if !((← get).column == indent && (← peek) != '\x00') then break
    chunks := chunks ++ String.join breaks
    let leadingNonSpace := !((← peek) == ' ' || (← peek) == '\t')
    let n ← runLength fun c => !isBreakOrEnd c
    chunks := chunks ++ (← take n)
    lineBreakText ← lineBreak
    let (bs, st) ← blockBreaks indent
    breaks := bs
    stop := st
    if (← get).column == indent && (← peek) != '\x00' then
      if folded && lineBreakText == "\n" && leadingNonSpace &&
          !((← peek) == ' ' || (← peek) == '\t') then
        if breaks.isEmpty then chunks := chunks.push ' '
      else chunks := chunks ++ lineBreakText
    else break
  if chomping != some false then chunks := chunks ++ lineBreakText
  if chomping == some true then chunks := chunks ++ String.join breaks
  return ⟨.scalar chunks false (some (if folded then '>' else '|')) false, start, stop⟩

/-! ## Quoted scalars -/

/-- The character that a one-character escape of a double-quoted scalar stands for. -/
def escapeChar? (c : Char) : Option Char :=
  match c with
  | '0' => some '\x00' | 'a' => some '\x07' | 'b' => some '\x08' | 't' => some '\t'
  | '\t' => some '\t' | 'n' => some '\n' | 'v' => some '\x0B' | 'f' => some '\x0C'
  | 'r' => some '\r' | 'e' => some '\x1B' | ' ' => some ' ' | '"' => some '"'
  | '\\' => some '\\' | '/' => some '/' | 'N' => some '\x85' | '_' => some '\xA0'
  | 'L' => some '\u2028' | 'P' => some '\u2029'
  | _ => none

/-- The number of hexadecimal digits of a code escape. -/
def escapeWidth? (c : Char) : Option Nat :=
  match c with
  | 'x' => some 2 | 'u' => some 4 | 'U' => some 8
  | _ => none

/-- Reads the line breaks inside a quoted scalar, with the blanks after each; a document marker
at the start of a line is a fault. -/
def quotedBreaks (start : Mark) : LexM (List String) := do
  let mut chunks : List String := []
  for _ in [0:← budget] do
    if ← atSeparator then
      fail (some "while scanning a quoted scalar") (some start) "found unexpected document separator"
    skipWhile fun c => c == ' ' || c == '\t'
    if isBreak (← peek) then chunks := chunks ++ [← lineBreak] else break
  return chunks

/-- Reads a run of a quoted scalar that holds no blanks, with its escapes; gives the text and
whether an escape named a lone surrogate. -/
def quotedNonSpaces (double : Bool) (start : Mark) : LexM (String × Bool) := do
  let mut chunks : String := ""
  let mut unpaired := false
  for _ in [0:← budget] do
    let n ← runLength fun c => !(c == '\'' || c == '"' || c == '\\' || isBlankOrEnd c)
    if n > 0 then chunks := chunks ++ (← take n)
    let c ← peek
    if !double && c == '\'' && (← peek 1) == '\'' then
      chunks := chunks.push '\''
      forward 2
    else if (double && c == '\'') || (!double && (c == '"' || c == '\\')) then
      chunks := chunks.push c
      forward
    else if double && c == '\\' then
      forward
      let e ← peek
      match escapeChar? e, escapeWidth? e with
      | some r, _ =>
        chunks := chunks.push r
        forward
      | none, some width =>
        forward
        for k in [0:width] do
          if !isHexChar (← peek k) then
            fail (some "while scanning a double-quoted scalar") (some start)
              (s!"expected escape sequence of {width} hexadecimal numbers, but found " ++
                showChar (← peek k))
        let code := hexNumber ((← get).slice width)
        if code ≥ 0x110000 then throw (.value "chr() arg not in range(0x110000)")
        if 0xD800 ≤ code && code < 0xE000 then
          unpaired := true
          chunks := chunks.push '\uFFFD'
        else chunks := chunks.push (Char.ofNat code)
        forward width
      | none, none =>
        if isBreak e then
          discard lineBreak
          chunks := chunks ++ String.join (← quotedBreaks start)
        else
          fail (some "while scanning a double-quoted scalar") (some start)
            s!"found unknown escape character {showChar e}"
    else break
  return (chunks, unpaired)

/-- Reads the blanks and line breaks between runs of a quoted scalar, folded: one line break
becomes a space, and more keep all but the first. -/
def quotedSpaces (start : Mark) : LexM String := do
  let n ← runLength fun c => c == ' ' || c == '\t'
  let blanks ← take n
  let c ← peek
  if c == '\x00' then
    fail (some "while scanning a quoted scalar") (some start) "found unexpected end of stream"
  else if isBreak c then
    let first ← lineBreak
    let breaks ← quotedBreaks start
    let head := if first != "\n" then first else if breaks.isEmpty then " " else ""
    return head ++ String.join breaks
  else return blanks

def quotedScalar (double : Bool) : LexM Token := do
  let start ← here
  let quote ← peek
  forward
  let (first, u) ← quotedNonSpaces double start
  let mut chunks := first
  let mut unpaired := u
  for _ in [0:← budget] do
    if (← peek) == quote then break
    chunks := chunks ++ (← quotedSpaces start)
    let (more, u) ← quotedNonSpaces double start
    chunks := chunks ++ more
    unpaired := unpaired || u
  forward
  return ⟨.scalar chunks false (some quote) unpaired, start, ← here⟩

/-! ## Plain scalars -/

/-- Reads the blanks and line breaks after a run of a plain scalar. Gives none when the scalar
ends here (at a document marker, or when nothing follows); else the text they fold to: the
spaces themselves, or for line breaks a space when there is only one. -/
def plainSpaces : LexM (Option String) := do
  let n ← runLength (· == ' ')
  let blanks ← take n
  let c ← peek
  if isBreak c then
    let first ← lineBreak
    allowKey true
    if ← atSeparator then return none
    let mut breaks : List String := []
    for _ in [0:← budget] do
      let d ← peek
      if d == ' ' then forward
      else if isBreak d then
        breaks := breaks ++ [← lineBreak]
        if ← atSeparator then return none
      else break
    let head := if first != "\n" then first else if breaks.isEmpty then " " else ""
    let text := head ++ String.join breaks
    return if text.isEmpty then none else some text
  else if blanks.isEmpty then return none
  else return some blanks

/-- Reads a plain scalar, over several lines if they are indented deeper than the block. In a
flow it ends at `,`, `?`, brackets and braces; a `:` ends it when a blank (or in a flow, one of
those) follows. A comment ends it. -/
def plainScalar : LexM Token := do
  let s ← get
  let start := s.mark
  let mut stop := start
  let indent := s.indent + 1
  let mut chunks : String := ""
  let mut spaces : String := ""
  for _ in [0:← budget] do
    if (← peek) == '#' then break
    let length := (← get).plainRun
    if length == 0 then break
    allowKey false
    chunks := chunks ++ spaces ++ (← take length)
    stop ← here
    match ← plainSpaces with
    | none => break
    | some sp =>
      spaces := sp
      let s ← get
      if s.charAt 0 == '#' || (s.flowLevel == 0 && (s.column : Int) < indent) then break
  return ⟨.scalar chunks true none false, start, stop⟩

/-! ## The next token -/

def plainStarts : LexM Bool := do
  let s ← get
  let c := s.charAt 0
  let next := s.charAt 1
  return !(isBlankOrEnd c || "-?:,[]\x7b\x7d#&*!|>'\"%@`".toList.contains c) ||
    (!isBlankOrEnd next && (c == '-' || (s.flowLevel == 0 && (c == '?' || c == ':'))))

/-- Queues the end of the stream, closing every block. -/
def streamEnd : LexM Unit := do
  unwindIndent (-1)
  removeSimpleKey
  modify fun s => { s with allowSimpleKey := false, possibleSimpleKeys := [] }
  let m ← here
  push ⟨.streamEnd, m, m⟩
  modify fun s => { s with done := true }

def documentMarker (kind : TokenKind) : LexM Unit := do
  unwindIndent (-1)
  removeSimpleKey
  allowKey false
  let start ← here
  forward 3
  push ⟨kind, start, ← here⟩

def flowStart (kind : TokenKind) : LexM Unit := do
  saveSimpleKey
  modify fun s => { s with flowLevel := s.flowLevel + 1 }
  allowKey true
  pushIndicator kind

def flowEnd (kind : TokenKind) : LexM Unit := do
  removeSimpleKey
  modify fun s => { s with flowLevel := s.flowLevel - 1 }
  allowKey false
  pushIndicator kind

/-- Queues `-`, opening a block sequence outside flows when it stands further right. -/
def blockEntry : LexM Unit := do
  if (← get).flowLevel == 0 then
    if !(← get).allowSimpleKey then fail none none "sequence entries are not allowed here"
    if ← addIndent (← get).column then
      let m ← here
      push ⟨.blockSequenceStart, m, m⟩
  allowKey true
  removeSimpleKey
  pushIndicator .blockEntry

/-- Queues `?`, opening a block mapping outside flows when it stands further right. -/
def explicitKey : LexM Unit := do
  if (← get).flowLevel == 0 then
    if !(← get).allowSimpleKey then fail none none "mapping keys are not allowed here"
    if ← addIndent (← get).column then
      let m ← here
      push ⟨.blockMappingStart, m, m⟩
  allowKey ((← get).flowLevel == 0)
  removeSimpleKey
  pushIndicator .key

/-- Queues `:`. When a key may have begun at this level, its key token is put back in front of
the tokens after it, with the start of a block mapping if it opens one. -/
def value : LexM Unit := do
  let s ← get
  match s.possibleSimpleKeys.lookup s.flowLevel with
  | some key =>
    let pos := key.tokenNumber - s.tokensTaken
    set { s with possibleSimpleKeys := s.possibleSimpleKeys.filter (·.1 != s.flowLevel),
                 tokens := s.tokens.insertIdx pos ⟨.key, key.mark, key.mark⟩ }
    if (← get).flowLevel == 0 then
      if ← addIndent key.column then
        modify fun s => { s with
          tokens := s.tokens.insertIdx pos ⟨.blockMappingStart, key.mark, key.mark⟩ }
    allowKey false
  | none =>
    if s.flowLevel == 0 then
      if !s.allowSimpleKey then fail none none "mapping values are not allowed here"
      if ← addIndent s.column then
        let m ← here
        push ⟨.blockMappingStart, m, m⟩
    allowKey ((← get).flowLevel == 0)
    removeSimpleKey
  pushIndicator .value

def fetchMore : LexM Unit := do
  skipToToken
  staleSimpleKeys
  unwindIndent (← get).column
  let s ← get
  let c := s.charAt 0
  let flow := s.flowLevel != 0
  let atLineStart := s.column == 0
  let marker := fun (m : String) => atLineStart && s.slice 3 == m && isBlankOrEnd (s.charAt 3)
  if c == '\x00' then streamEnd
  else if c == '%' && atLineStart then
    unwindIndent (-1)
    removeSimpleKey
    allowKey false
    push (← directive)
  else if c == '-' && marker "---" then documentMarker .documentStart
  else if c == '.' && marker "..." then documentMarker .documentEnd
  else if c == '[' then flowStart .flowSequenceStart
  else if c == '{' then flowStart .flowMappingStart
  else if c == ']' then flowEnd .flowSequenceEnd
  else if c == '}' then flowEnd .flowMappingEnd
  else if c == ',' then
    allowKey true
    removeSimpleKey
    pushIndicator .flowEntry
  else if c == '-' && isBlankOrEnd (s.charAt 1) then blockEntry
  else if c == '?' && (flow || isBlankOrEnd (s.charAt 1)) then explicitKey
  else if c == ':' && (flow || isBlankOrEnd (s.charAt 1)) then value
  else if c == '*' || c == '&' then
    saveSimpleKey
    allowKey false
    push (← anchorOrAlias (c == '*'))
  else if c == '!' then
    saveSimpleKey
    allowKey false
    push (← tag)
  else if (c == '|' || c == '>') && !flow then
    allowKey true
    removeSimpleKey
    push (← blockScalar (c == '>'))
  else if c == '\'' || c == '"' then
    saveSimpleKey
    allowKey false
    push (← quotedScalar (c == '"'))
  else if ← plainStarts then
    saveSimpleKey
    allowKey false
    push (← plainScalar)
  else
    fail (some "while scanning for the next token") none
      s!"found character {showChar c} that cannot start any token"

/-- Whether more tokens must be cut before the first queued one can be handed out: none is
queued, or a key may still begin at the first. -/
def needMore : LexM Bool := do
  let s ← get
  if s.done then return false
  if s.tokens.isEmpty then return true
  staleSimpleKeys
  return (← nextPossibleSimpleKey) == some (← get).tokensTaken

/-- Cuts tokens until the first queued one can be handed out. -/
def fill : LexM Unit := do
  for _ in [0:← budget] do
    if ← needMore then fetchMore else break

/-- The next token, left in the queue; the end of the stream once all are handed out. -/
def peekToken : LexM Token := do
  fill
  match (← get).tokens with
  | t :: _ => return t
  | [] => let m ← here; return ⟨.streamEnd, m, m⟩

def nextToken : LexM Token := do
  fill
  let s ← get
  match s.tokens with
  | t :: rest =>
    set { s with tokens := rest, tokensTaken := s.tokensTaken + 1 }
    return t
  | [] => return ⟨.streamEnd, s.mark, s.mark⟩

end LexM

end Colonnade.Yaml
