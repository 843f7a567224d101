import Colonnade.Json
/-!
# Reading JSON text

A reader for JSON text with every escape (surrogate pairs joined), integers apart from floats, and
the words `NaN`, `Infinity` and `-Infinity`; the whole text must be one value.
-/

namespace Colonnade.Json

/-- Skips the blanks that JSON allows between tokens. -/
def skipBlanks (cs : List Char) : List Char :=
  cs.dropWhile (fun c => c = ' ' || c = '\t' || c = '\n' || c = '\r')

def hexValue? (c : Char) : Option Nat :=
  if '0' ≤ c ∧ c ≤ '9' then some (c.toNat - 48)
  else if 'a' ≤ c ∧ c ≤ 'f' then some (c.toNat - 87)
  else if 'A' ≤ c ∧ c ≤ 'F' then some (c.toNat - 55)
  else none

def hex4? : List Char → Option Nat
  | [a, b, c, d] => do
    let a ← hexValue? a
    let b ← hexValue? b
    let c ← hexValue? c
    let d ← hexValue? d
    pure (((a * 16 + b) * 16 + c) * 16 + d)
  | _ => none

/-- The characters read so far, with a first half of a pair that found no second half written as
U+FFFD. -/
def flushHalf (pending : Option Nat) (acc : List Char) : List Char :=
  match pending with
  | some _ => '\ufffd' :: acc
  | none => acc

def shortEscape? (e : Char) : Option Char :=
  if e = 'n' then some '\n' else if e = 't' then some '\t'
  else if e = 'r' then some '\r' else if e = 'b' then some '\x08'
  else if e = 'f' then some '\x0c' else if e = '"' then some '"'
  else if e = '\\' then some '\\' else if e = '/' then some '/' else none

/-- Reads the characters of a string after its opening quote, the text so far last character
first and `pending` the first half of a pair whose second half may follow; gives the text and
what follows the closing quote. A half standing alone becomes U+FFFD. -/
def readString (pending : Option Nat) (acc : List Char) : List Char → Option (String × List Char)
  | [] => none
  | '"' :: rest => some (String.ofList (flushHalf pending acc).reverse, rest)
  | '\\' :: 'u' :: a :: b :: c :: d :: rest =>
    match hex4? [a, b, c, d] with
    | none => none
    | some u =>
      if 0xD800 ≤ u ∧ u < 0xDC00 then readString (some u) (flushHalf pending acc) rest
      else if 0xDC00 ≤ u ∧ u < 0xE000 then
        match pending with
        | some hi =>
          readString none (Char.ofNat (0x10000 + (hi - 0xD800) * 0x400 + (u - 0xDC00)) :: acc) rest
        | none => readString none ('\ufffd' :: acc) rest
      else readString none (Char.ofNat u :: flushHalf pending acc) rest
  | '\\' :: e :: rest =>
    match shortEscape? e with
    | some o => readString none (o :: flushHalf pending acc) rest
    | none => none
  | c :: rest =>
    if c = '\\' || c.toNat < 0x20 then none
    else readString none (c :: flushHalf pending acc) rest

def isAsciiDigit (c : Char) : Bool := '0' ≤ c && c ≤ '9'

def digitsValue (ds : List Char) : Nat := ds.foldl (fun n d => n * 10 + (d.toNat - 48)) 0

def readNumber (cs : List Char) : Option (Json × List Char) :=
  let (neg, cs) := match cs with
    | '-' :: r => (true, r)
    | r => (false, r)
  let whole := match cs with
    | '0' :: _ => ['0']
    | _ => cs.takeWhile isAsciiDigit
  if whole.isEmpty then none else
  let r := cs.drop whole.length
  let (frac, r, fracOk) := match r with
    | '.' :: r' =>
      let f := r'.takeWhile isAsciiDigit
      (some f, r'.drop f.length, !f.isEmpty)
    | _ => (none, r, true)
  let (exp, r, expOk) := match r with
    | e :: r' =>
      if e = 'e' || e = 'E' then
        let (eneg, r'') := match r' with
          | '-' :: t => (true, t)
          | '+' :: t => (false, t)
          | t => (false, t)
        let ed := r''.takeWhile isAsciiDigit
        let v : Int := digitsValue ed
        (some (if eneg then -v else v), r''.drop ed.length, !ed.isEmpty)
      else (none, r, true)
    | [] => (none, r, true)
  if !fracOk || !expOk then none else
  match frac, exp with
  | none, none =>
    let n : Int := digitsValue whole
    some (.int (if neg then -n else n), r)
  | _, _ =>
    let f := frac.getD []
    let mant := digitsValue (whole ++ f)
    let e10 := exp.getD 0 - f.length
    let x := Float.ofScientific mant (e10 < 0) e10.natAbs
    some (.float (if neg then -x else x), r)

mutual
/-- Reads one value, with at most `fuel` nested steps. -/
def readValue : Nat → List Char → Option (Json × List Char)
  | 0, _ => none
  | fuel + 1, cs =>
    match skipBlanks cs with
    | 'n' :: 'u' :: 'l' :: 'l' :: r => some (.null, r)
    | 't' :: 'r' :: 'u' :: 'e' :: r => some (.bool true, r)
    | 'f' :: 'a' :: 'l' :: 's' :: 'e' :: r => some (.bool false, r)
    | 'N' :: 'a' :: 'N' :: r => some (.float (0.0 / 0.0), r)
    | 'I' :: 'n' :: 'f' :: 'i' :: 'n' :: 'i' :: 't' :: 'y' :: r => some (.float (1.0 / 0.0), r)
    | '-' :: 'I' :: 'n' :: 'f' :: 'i' :: 'n' :: 'i' :: 't' :: 'y' :: r => some (.float (-1.0 / 0.0), r)
    | '"' :: r => (readString none [] r).map fun (s, r) => (.str s, r)
    | '[' :: r =>
      match skipBlanks r with
      | ']' :: r' => some (.arr [], r')
      | _ => readItems fuel [] r
    | '\x7b' :: r =>
      match skipBlanks r with
      | '\x7d' :: r' => some (.obj [], r')
      | _ => readFields fuel [] r
    | r => readNumber r

/-- Reads the items of an array after its opening bracket, the items so far last first. -/
def readItems : Nat → List Json → List Char → Option (Json × List Char)
  | 0, _, _ => none
  | fuel + 1, acc, cs =>
    match readValue fuel cs with
    | none => none
    | some (v, r) =>
      match skipBlanks r with
      | ',' :: r' => readItems fuel (v :: acc) r'
      | ']' :: r' => some (.arr (v :: acc).reverse, r')
      | _ => none

/-- Reads the fields of an object after its opening brace, the fields so far last first. -/
def readFields : Nat → List (String × Json) → List Char → Option (Json × List Char)
  | 0, _, _ => none
  | fuel + 1, acc, cs =>
    match skipBlanks cs with
    | '"' :: r =>
      match readString none [] r with
      | none => none
      | some (k, r) =>
        match skipBlanks r with
        | ':' :: r =>
          match readValue fuel r with
          | none => none
          | some (v, r) =>
            match skipBlanks r with
            | ',' :: r' => readFields fuel ((k, v) :: acc) r'
            | '\x7d' :: r' => some (.obj ((k, v) :: acc).reverse, r')
            | _ => none
        | _ => none
    | _ => none
end

def parse? (s : String) : Option Json :=
  let cs := s.toList
  match readValue (2 * cs.length + 2) cs with
  | some (v, r) => if (skipBlanks r).isEmpty then some v else none
  | none => none

/-- The compact text of this library, read back by `parse?`. -/
def compact : Codec := ⟨render, parse?⟩

end Colonnade.Json
