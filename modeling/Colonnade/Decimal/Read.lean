import Colonnade.Text.Blank
import Colonnade.Text.DecimalDigit
/-!
# Reading numbers from text

The lenient dialect converts text to a number in general: blanks around, digits of any script,
underscores between digits, base prefixes, and at most 4300 digits outside the powers of two. The
strict dialect reads a trimmed ASCII float, then the untrimmed text without its underscores. A float
is the double nearest to the numeral, ties to even.
-/

namespace Colonnade.Decimal

open Colonnade.Text

def isDigitChar (c : Char) : Bool := '0' ≤ c && c ≤ '9'

def asciiDigit? (c : Char) : Option Nat := if isDigitChar c then some (c.toNat - 48) else none

/-- The quotient of `n` by `d · 2^k`, the remainder and the divisor, for an exponent of either
sign. -/
def scaledDivision (n d : Nat) (k : Int) : Nat × Nat × Nat :=
  if k ≥ 0 then
    let den := d * Nat.pow 2 k.toNat
    (n / den, n % den, den)
  else
    let num := n * Nat.pow 2 k.natAbs
    (num / d, num % d, d)

/-- The double nearest to `n / d`, a tie going to the even neighbour; infinity when it is too
large for a double. The exponent `k` is chosen so that the quotient by `2^k` has 53 bits, or
lower for the smallest doubles; the quotient is then rounded by its remainder, and it and `k`
are exact in a double. -/
def nearestRatio (n d : Nat) : Float :=
  if n = 0 ∨ d = 0 then 0.0 else
  let k0 : Int := (n.log2 : Int) - (d.log2 : Int) - 53
  let k1 := if (scaledDivision n d k0).1 ≥ Nat.pow 2 53 then k0 + 1 else k0
  let k := max k1 (-1074)
  let (q, r, den) := scaledDivision n d k
  let q := if 2 * r > den ∨ (2 * r = den ∧ q % 2 = 1) then q + 1 else q
  if q ≠ 0 ∧ (q.log2 : Int) + k ≥ 1024 then 1.0 / 0.0
  else Float.scaleB (Float.ofNat q) k

/-- The double nearest to `m · 10^e`. A numeral too long or too short for any double gives
infinity or zero without forming the power. -/
def ofScientific (m : Nat) (e : Int) : Float :=
  let size : Int := (Nat.toDigits 10 m).length + e
  if m = 0 then 0.0
  else if size > 311 then 1.0 / 0.0
  else if size < -330 then 0.0
  else if e ≥ 0 then nearestRatio (m * Nat.pow 10 e.toNat) 1
  else nearestRatio m (Nat.pow 10 e.natAbs)

def digitsValue (ds : List Nat) : Nat := ds.foldl (fun n d => n * 10 + d) 0

/-- The leading run of characters that are digits by `digit?`, as values, and what follows. -/
def spanDigits (digit? : Char → Option Nat) : List Char → List Nat × List Char
  | [] => ([], [])
  | c :: rest =>
    match digit? c with
    | some d => let (ds, r) := spanDigits digit? rest; (d :: ds, r)
    | none => ([], c :: rest)

/-- Reads an unsigned decimal numeral, whole, whose digits `digit?` gives: digits with an optional
point and an optional exponent, at least one digit before or after the point. -/
def readUnsigned? (digit? : Char → Option Nat) (cs : List Char) : Option Float :=
  let (whole, r) := spanDigits digit? cs
  let (frac, r) := match r with
    | '.' :: r' => spanDigits digit? r'
    | _ => ([], r)
  if whole.isEmpty && frac.isEmpty then none else
  let exp? : Option Int := match r with
    | [] => some 0
    | e :: r' =>
      if e = 'e' || e = 'E' then
        let (neg, rest) := match r' with
          | '-' :: t => (true, t)
          | '+' :: t => (false, t)
          | t => (false, t)
        let (ds, tail) := spanDigits digit? rest
        if !ds.isEmpty && tail.isEmpty then
          some (if neg then -(digitsValue ds : Int) else digitsValue ds)
        else none
      else none
  exp?.map fun e => ofScientific (digitsValue (whole ++ frac)) (e - frac.length)

/-- Reads a signed float numeral, whole: a sign, then a word or an unsigned numeral. -/
def readSigned? (digit? : Char → Option Nat) (cs : List Char) : Option Float :=
  let (neg, body) := match cs with
    | '-' :: r => (true, r)
    | '+' :: r => (false, r)
    | r => (false, r)
  let word := String.ofList (body.map Char.toLower)
  let x? :=
    if word == "inf" || word == "infinity" then some (1.0 / 0.0)
    else if word == "nan" then some (0.0 / 0.0)
    else readUnsigned? digit? body
  x?.map fun x => if neg then -x else x

/-- Whether each underscore stands between two digits by `isDigit`. -/
def underscoresBetween (isDigit : Char → Bool) : Char → List Char → Bool
  | _, [] => true
  | prev, '_' :: rest =>
    isDigit prev && (match rest with
      | c :: _ => isDigit c
      | [] => false) && underscoresBetween isDigit '_' rest
  | _, c :: rest => underscoresBetween isDigit c rest

def readFloat? (s : String) : Option Float :=
  let cs := s.toList
  if cs.contains '_' && !underscoresBetween isDecimalDigit ' ' cs then none
  else readSigned? digitValue? (dropBlanksEnd (dropBlanks (cs.filter (· != '_'))))

/-- Whether a character is white space in the strict dialect: a blank other than the
information separators. -/
def isWhiteSpace (c : Char) : Bool := isBlank c && !(0x1C ≤ c.toNat && c.toNat ≤ 0x1F)

def readStrictFloat? (s : String) : Option Float :=
  let cs := s.toList
  let trimmed := ((cs.dropWhile isWhiteSpace).reverse.dropWhile isWhiteSpace).reverse
  match readSigned? asciiDigit? trimmed with
  | some x => some x
  | none =>
    if underscoresBetween isDigitChar ' ' cs then readSigned? asciiDigit? (cs.filter (· != '_'))
    else none

/-- The outcome of reading an integer numeral. -/
inductive IntReading where
  | value (n : Int)
  | invalid
  | tooLong (digits : Nat)
  deriving DecidableEq, Repr

/-- The value of a digit or letter as a digit of any base up to 36. -/
def alnumValue? (c : Char) : Option Nat :=
  if '0' ≤ c && c ≤ '9' then some (c.toNat - 48)
  else if 'a' ≤ c && c ≤ 'z' then some (c.toNat - 87)
  else if 'A' ≤ c && c ≤ 'Z' then some (c.toNat - 55)
  else none

/-- The digits of a numeral in a base, with single underscores between them, and what follows;
none when an underscore leads, is doubled or ends the run. -/
def spanBaseDigits (base : Nat) (cs : List Char) : Option (List Nat × List Char) :=
  let run := cs.takeWhile fun c => c == '_' || (alnumValue? c).any (· < base)
  let doubled := (run.zip run.tail).any fun (a, b) => a == '_' && b == '_'
  if run.head? == some '_' || run.getLast? == some '_' || doubled then none
  else some (run.filterMap alnumValue?, cs.drop run.length)

/-- The character that an integer numeral reads a character as: any blank as a space, a digit of
any script as its ASCII digit, ASCII as itself, and anything else as a character that no numeral
holds. -/
def asciiForm (c : Char) : Char :=
  if isBlank c then ' '
  else match digitValue? c with
    | some d => Char.ofNat (48 + d)
    | none => if c.toNat < 128 then c else '?'

/-- Reads an integer numeral in the lenient dialect, in a base from 2 to 36. -/
def readInt (s : String) (base : Nat) : IntReading :=
  let cs := (s.toList.map asciiForm).dropWhile (· == ' ')
  let (neg, cs) := match cs with
    | '-' :: r => (true, r)
    | '+' :: r => (false, r)
    | r => (false, r)
  let pfx := match base with
    | 2 => ['b', 'B']
    | 8 => ['o', 'O']
    | 16 => ['x', 'X']
    | _ => []
  let cs := match cs with
    | '0' :: x :: r => if pfx.contains x then (match r with | '_' :: r' => r' | _ => r) else cs
    | _ => cs
  match spanBaseDigits base cs with
  | none => .invalid
  | some (ds, rest) =>
    let binary := base &&& (base - 1) == 0
    if !binary && ds.length > 4300 then .tooLong ds.length
    else if ds.isEmpty || !(rest.all (· == ' ')) then .invalid
    else
      let n : Int := (ds.foldl (fun n d => n * base + d) 0 : Nat)
      .value (if neg then -n else n)

end Colonnade.Decimal
