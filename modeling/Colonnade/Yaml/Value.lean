import Colonnade.Yaml.Node
import Colonnade.Data
import Colonnade.Decimal.Read
import Colonnade.Decimal.Shortest
import Colonnade.Text.Case
/-!
# Values of YAML nodes

A node becomes a host value by its tag. A mapping takes in its merge keys `<<` first, and a later
equal key replaces the value in place. Values are built level by level, which decides the fault
reported when a text has several.
-/

namespace Colonnade.Yaml

open Colonnade.Text

/-! ## Scalars -/

/-- A fault of building a value, at the node where it arose. -/
def faultAt {α : Type} (n : Node) (problem : String) : Except Failure α :=
  .error (.form none none problem (some n.start))

/-- The text of a node read as a scalar: a scalar's own text and whether it holds a lone
surrogate; for a mapping, the scalar under its key `=`. -/
def scalarText : Nat → Node → Except Failure (String × Bool)
  | 0, n => faultAt n s!"expected a scalar node, but found {n.kind.name}"
  | fuel + 1, n =>
    match n with
    | .scalar _ _ text _ unpaired _ => .ok (text, unpaired)
    | .mapping _ _ pairs _ =>
      match pairs.find? fun (k, _) => k.tag == tagOf "value" with
      | some (_, v) => scalarText fuel v
      | none => faultAt n "expected a scalar node, but found mapping"
    | _ => faultAt n s!"expected a scalar node, but found {n.kind.name}"

/-- The fault of an integer numeral that does not read in a base. -/
def intFault (base : Nat) (text : String) : Failure :=
  .value s!"invalid literal for int() with base {base}: {String.ofList ((quoted text).toList.take 200)}"

def readIntIn (text : String) (base : Nat) : Except Failure Int :=
  match Decimal.readInt text base with
  | .value n => .ok n
  | .invalid => .error (intFault base text)
  | .tooLong d =>
    .error (.value (s!"Exceeds the limit (4300 digits) for integer string conversion: value has " ++
      s!"{d} digits; use sys.set_int_max_str_digits() to increase the limit"))

/-- The fault of reading the first character of an empty text. -/
def emptyFault : Failure := .index "string index out of range"

/-- The integer of an integer scalar's text: underscores are dropped and a sign taken off; then
`0` is zero, `0b` and `0x` lead binary and hexadecimal digits, another leading `0` octal ones,
colons part digits of base 60, and anything else is decimal. -/
def intOf (text : String) : Except Failure Int := do
  let cs := text.toList.filter (· != '_')
  let (sign, cs) ← match cs with
    | [] => throw emptyFault
    | '-' :: rest => pure ((-1 : Int), rest)
    | '+' :: rest => pure (1, rest)
    | _ => pure (1, cs)
  let value := String.ofList cs
  match cs with
  | ['0'] => return 0
  | '0' :: 'b' :: rest => return sign * (← readIntIn (String.ofList rest) 2)
  | '0' :: 'x' :: rest => return sign * (← readIntIn (String.ofList rest) 16)
  | '0' :: _ => return sign * (← readIntIn value 8)
  | [] => throw emptyFault
  | _ =>
    if cs.contains ':' then
      let digits ← (value.splitOn ":").mapM fun part => readIntIn part 10
      return sign * digits.foldl (fun acc d => acc * 60 + d) 0
    else return sign * (← readIntIn value 10)

def readFloatOf (text : String) : Except Failure Float :=
  match Decimal.readFloat? text with
  | some x => .ok x
  | none => .error (.value s!"could not convert string to float: {quoted text}")

/-- The float of a float scalar's text: underscores are dropped, letters lowered and a sign
taken off; then `.inf` and `.nan` are the infinity and the quiet NaN, colons part digits of base
60 summed from the last, and anything else is read as a numeral. -/
def floatOf (text : String) : Except Failure Float := do
  let cs := (lower (String.ofList (text.toList.filter (· != '_')))).toList
  let (negative, cs) ← match cs with
    | [] => throw emptyFault
    | '-' :: rest => pure (true, rest)
    | '+' :: rest => pure (false, rest)
    | _ => pure (false, cs)
  let signed := fun (x : Float) => if negative then -1.0 * x else x
  let value := String.ofList cs
  if value == ".inf" then return signed (1.0 / 0.0)
  else if value == ".nan" then return 0.0 / 0.0
  else if cs.contains ':' then
    let digits ← (value.splitOn ":").mapM readFloatOf
    let (sum, _) := digits.reverse.foldl
      (fun (acc : Float × Nat) d => (acc.1 + d * Decimal.ofScientific acc.2 0, acc.2 * 60)) (0.0, 1)
    return signed sum
  else return signed (← readFloatOf value)

def boolOf? (word : String) : Option Bool :=
  match word with
  | "yes" | "true" | "on" => some true
  | "no" | "false" | "off" => some false
  | _ => none

def base64Value? (c : Char) : Option Nat :=
  if 'A' ≤ c && c ≤ 'Z' then some (c.toNat - 65)
  else if 'a' ≤ c && c ≤ 'z' then some (c.toNat - 71)
  else if '0' ≤ c && c ≤ '9' then some (c.toNat + 4)
  else if c == '+' then some 62
  else if c == '/' then some 63
  else none

/-- The state of decoding base 64: the place in the group of four, the bits left over, the pads
met, and the bytes so far in reverse. -/
structure Base64State where
  position : Nat := 0
  left : Nat := 0
  pads : Nat := 0
  out : List UInt8 := []

/-- Decodes base 64 leniently: characters outside the alphabet are passed over, and padding
that completes a group ends the data. A group left with one character, or unpadded, is a fault. -/
def decodeBase64 (cs : List Char) : Except String (List UInt8) :=
  let rec go : List Char → Base64State → Except String (List UInt8)
    | [], s =>
      if s.position == 0 then .ok s.out.reverse
      else if s.position == 1 then
        .error (s!"Invalid base64-encoded string: number of data characters " ++
          s!"({s.out.length / 3 * 4 + 1}) cannot be 1 more than a multiple of 4")
      else .error "Incorrect padding"
    | c :: rest, s =>
      if c == '=' then
        if s.position ≥ 2 then
          let s := { s with pads := s.pads + 1 }
          if s.position + s.pads ≥ 4 then .ok s.out.reverse else go rest s
        else go rest s
      else
        match base64Value? c with
        | none => go rest s
        | some v =>
          let s := { s with pads := 0 }
          match s.position with
          | 0 => go rest { s with position := 1, left := v }
          | 1 =>
            let byte := (s.left * 4 + v / 16).toUInt8
            go rest { s with position := 2, left := v % 16, out := byte :: s.out }
          | 2 =>
            let byte := ((s.left * 16 + v / 4) % 256).toUInt8
            go rest { s with position := 3, left := v % 4, out := byte :: s.out }
          | _ =>
            let byte := ((s.left * 64 + v) % 256).toUInt8
            go rest { s with position := 0, left := 0, out := byte :: s.out }
  go cs {}

/-- The message of text that is not ASCII: the run of characters beyond it, with the first shown
by its code when the run is one character. -/
def asciiFault (cs : List Char) : String :=
  let start := cs.findIdx (·.toNat ≥ 128)
  let run := ((cs.drop start).takeWhile (·.toNat ≥ 128)).length
  let code := fun (c : Char) =>
    if c.toNat < 0x100 then "\\x" ++ String.ofList (hexDigits 2 c.toNat)
    else if c.toNat < 0x10000 then "\\u" ++ String.ofList (hexDigits 4 c.toNat)
    else "\\U" ++ String.ofList (hexDigits 8 c.toNat)
  let first := code (cs.getD start ' ')
  if run == 1 then
    s!"'ascii' codec can't encode character '{first}' in position {start}: " ++
      "ordinal not in range(128)"
  else
    s!"'ascii' codec can't encode characters in position {start}-{start + run - 1}: " ++
      "ordinal not in range(128)"

def bytesOf (n : Node) (text : String) : Except Failure (List UInt8) :=
  let cs := text.toList
  if cs.any (·.toNat ≥ 128) then
    faultAt n s!"failed to convert base64 data into ascii: {asciiFault cs}"
  else
    match decodeBase64 cs with
    | .ok bs => .ok bs
    | .error m => faultAt n s!"failed to decode base64 data: {m}"

/-- The timestamp of a scalar; the form may end in a line feed. The calendar's refusal is a fault
of value. -/
def timestampOf (text : String) : Except Failure Timestamp :=
  let cs := text.toList
  let t? := match Timestamp.ofChars? cs with
    | some t => some t
    | none => if cs.getLast? == some '\n' then Timestamp.ofChars? cs.dropLast else none
  match t? with
  | none => .error (.attribute "'NoneType' object has no attribute 'groupdict'")
  | some t =>
    match t.fault? with
    | some m => .error (.value m)
    | none => .ok t

/-! ## Tags -/

/-- How a tag builds its value: at once from a scalar, later as a collection, or not at all. -/
inductive Building where
  | atOnce
  | later
  | unknown
  deriving DecidableEq

def buildingOf (tag : String) : Building :=
  if ["null", "bool", "int", "float", "binary", "timestamp", "str"].any (tagOf · == tag) then .atOnce
  else if ["seq", "map", "set", "omap", "pairs"].any (tagOf · == tag) then .later
  else .unknown

def scalarValue (fuel : Nat) (n : Node) : Except Failure Data := do
  let (text, unpaired) ← scalarText fuel n
  let tag := n.tag
  if tag == tagOf "null" then return .null
  else if tag == tagOf "bool" then
    let word := lower text
    match boolOf? word with
    | some b => return .bool b
    | none => throw (.key (quoted word))
  else if tag == tagOf "int" then return .int (← intOf text)
  else if tag == tagOf "float" then return .float (← floatOf text)
  else if tag == tagOf "binary" then return .bytes (← bytesOf n text)
  else if tag == tagOf "timestamp" then
    match n with
    | .scalar .. => return .stamp (← timestampOf text)
    | _ => throw (.wrongType "expected string or bytes-like object, got 'list'")
  else return if unpaired then .unpaired text else .text text

/-- Whether a node's value can be a key: lists, maps and sets cannot. -/
def isHashable (n : Node) : Bool := buildingOf n.tag != .later

/-! ## Merging -/

/-- The pairs of a mapping with the pairs of the mappings under its merge keys first, and its
keys `=` read as texts. -/
def flatten : Nat → Node → Except Failure (List (Node × Node))
  | 0, _ => .ok []
  | fuel + 1, n =>
    match n with
    | .mapping _ _ pairs start => do
      let mut merged : List (Node × Node) := []
      let mut own : List (Node × Node) := []
      for (k, v) in pairs do
        if k.tag == tagOf "merge" then
          match v with
          | .mapping .. => merged := merged ++ (← flatten fuel v)
          | .sequence _ _ items _ =>
            let mut groups : List (List (Node × Node)) := []
            for s in items do
              match s with
              | .mapping .. => groups := groups ++ [← flatten fuel s]
              | _ =>
                throw (.form (some "while constructing a mapping") (some start)
                  s!"expected a mapping for merging, but found {s.kind.name}" (some s.start))
            for g in groups.reverse do merged := merged ++ g
          | .cycle .. => pure ()
          | _ =>
            throw (.form (some "while constructing a mapping") (some start)
              ("expected a mapping or list of mappings for merging, but found " ++ v.kind.name)
              (some v.start))
        else if k.tag == tagOf "value" then own := own ++ [(k.withTag (tagOf "str"), v)]
        else own := own ++ [(k, v)]
      return merged ++ own
    | _ => .ok []

/-! ## Building level by level -/

/-- The state of building: which nodes are built, and the collections whose entries wait. -/
structure BuildState where
  built : Array Bool
  waiting : List Node := []

abbrev BuildM := StateT BuildState (Except Failure)

/-- A step of building that may fail as a computation may. -/
def liftExcept {α : Type} : Except Failure α → BuildM α
  | .ok a => pure a
  | .error e => throw e

/-- A fault of form met while building, with the collection's place as context when a context
is given. -/
def buildFault (n : Node) (context : Option String) (problem : String) (m : Mark) : BuildM Unit :=
  throw (.form context (context.map fun _ => n.start) problem (some m))

/-- Takes in a node: a scalar is built at once, a collection waits, a tag with no meaning is a
fault. A node built before is passed over. -/
def takeIn (fuel : Nat) (n : Node) : BuildM Unit := do
  if (← get).built.getD n.id false then return
  match buildingOf n.tag with
  | .atOnce =>
    discard (liftExcept (scalarValue fuel n))
    modify fun s => { s with built := s.built.setIfInBounds n.id true }
  | .later =>
    modify fun s => { s with built := s.built.setIfInBounds n.id true, waiting := s.waiting ++ [n] }
  | .unknown =>
    throw (.form none none s!"could not determine a constructor for the tag {quoted n.tag}"
      (some n.start))

def takeInEntries (fuel : Nat) (n : Node) : BuildM Unit := do
  let tag := n.tag
  let fail := buildFault n
  if tag == tagOf "seq" then
    match n with
    | .sequence _ _ items _ => for c in items do takeIn fuel c
    | .cycle .. => pure ()
    | _ => fail none s!"expected a sequence node, but found {n.kind.name}" n.start
  else if tag == tagOf "map" || tag == tagOf "set" then
    match n with
    | .mapping .. =>
      let pairs ← liftExcept (flatten fuel n)
      for (k, v) in pairs do
        takeIn fuel k
        if !isHashable k then fail (some "while constructing a mapping") "found unhashable key" k.start
        takeIn fuel v
    | .cycle .. => pure ()
    | _ => fail none s!"expected a mapping node, but found {n.kind.name}" n.start
  else
    let context := if tag == tagOf "omap" then "while constructing an ordered map"
      else "while constructing pairs"
    match n with
    | .sequence _ _ items _ =>
      for s in items do
        match s with
        | .mapping _ _ [(k, v)] _ =>
          takeIn fuel k
          takeIn fuel v
        | .mapping _ _ pairs _ =>
          fail (some context) s!"expected a single mapping item, but found {pairs.length} items" s.start
        | _ => fail (some context) s!"expected a mapping of length 1, but found {s.kind.name}" s.start
    | .cycle .. => pure ()
    | _ => fail (some context) s!"expected a sequence, but found {n.kind.name}" n.start

/-- Builds level by level from a root, stopping at the first fault. -/
def checkBuild (fuel : Nat) (root : Node) (count : Nat) : Except Failure Unit := do
  let run : BuildM Unit := do
    takeIn fuel root
    for _ in [0:count + 1] do
      let waiting := (← get).waiting
      if waiting.isEmpty then break
      modify fun s => { s with waiting := [] }
      for n in waiting do takeInEntries fuel n
  discard (run.run { built := Array.replicate count false })

/-! ## Equal keys -/

def intEqualsFloat (n : Int) (x : Float) : Bool :=
  if x.isNaN || x.isInf then false
  else
    let b := Decimal.Binary.ofBits x.toBits
    let negative := x.toBits >>> 63 == 1
    if b.m == 0 then n == 0
    else if negative != decide (n < 0) then false
    else n.natAbs * Nat.pow 2 (-b.q).toNat == b.m * Nat.pow 2 b.q.toNat

/-- The minutes from a fixed origin to a timestamp's instant, with its second and microsecond,
for comparing timestamps with offsets. -/
def instantOf (t : Timestamp) : Int × Nat × Nat :=
  let c := t.clock.getD ⟨0, 0, 0, 0, none⟩
  let y : Int := t.year
  let days : Int := 365 * y + y / 4 - y / 100 + y / 400 +
    ((List.range t.month).drop 1).foldl (fun d m => d + Timestamp.daysIn t.year m) 0 + t.day
  (days * 1440 + 60 * c.hour + c.minute - c.offset.getD 0, c.second, c.micro)

/-- Whether two keys are equal: numbers by value, booleans as one and zero; texts, bytes and
null by content; dates by their fields; times with offsets by their instant, and times without
by their fields. -/
def sameKey (a b : Data) : Bool :=
  let number? : Data → Option (Sum Int Float) := fun
    | .bool v => some (.inl (if v then 1 else 0))
    | .int n => some (.inl n)
    | .float x => some (.inr x)
    | _ => none
  match number? a, number? b with
  | some (.inl m), some (.inl n) => m == n
  | some (.inl m), some (.inr x) => intEqualsFloat m x
  | some (.inr x), some (.inl n) => intEqualsFloat n x
  | some (.inr x), some (.inr y) => x == y
  | _, _ =>
    match a, b with
    | .null, .null => true
    | .text s, .text t => s == t
    | .unpaired s, .unpaired t => s == t
    | .bytes s, .bytes t => s == t
    | .stamp s, .stamp t =>
      match s.clock, t.clock with
      | none, none => s == t
      | some c, some d =>
        match c.offset, d.offset with
        | none, none => s == t
        | some _, some _ => instantOf s == instantOf t
        | _, _ => false
      | _, _ => false
    | _, _ => false

/-- Puts a key and value into fields: an equal key keeps its place and takes the new value. -/
def putField (fields : List (Data × Data)) (k v : Data) : List (Data × Data) :=
  if fields.any fun (k', _) => sameKey k' k then
    fields.map fun (k', v') => if sameKey k' k then (k', v) else (k', v')
  else fields ++ [(k, v)]

/-- The value of a node, once building it is known not to fail. -/
def valueOf : Nat → Node → Data
  | 0, _ => .null
  | fuel + 1, n =>
    match buildingOf n.tag with
    | .atOnce => (scalarValue fuel n).toOption.getD .null
    | .unknown => .null
    | .later =>
      let tag := n.tag
      match n with
      | .sequence _ _ items _ =>
        if tag == tagOf "seq" then .list (items.map (valueOf fuel))
        else if tag == tagOf "omap" || tag == tagOf "pairs" then
          .list (items.map fun s => match s with
            | .mapping _ _ [(k, v)] _ => .tuple [valueOf fuel k, valueOf fuel v]
            | _ => .null)
        else .null
      | .mapping .. =>
        let pairs := ((flatten fuel n).toOption.getD []).map fun (k, v) => (valueOf fuel k, valueOf fuel v)
        let fields := pairs.foldl (fun fs (k, v) => putField fs k v) []
        if tag == tagOf "map" then .map fields
        else if tag == tagOf "set" then .list (fields.map Prod.fst)
        else .null
      | _ => if tag == tagOf "map" then .map [] else .list []

/-- The value of a YAML text: null for an empty stream. -/
def load (text : String) : Except Failure Data := do
  match ← Node.ofText? text with
  | none => return .null
  | some root =>
    let fuel := 4 * text.length + 8
    checkBuild fuel root fuel
    return valueOf fuel root

end Colonnade.Yaml
