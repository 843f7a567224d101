import Colonnade.Decimal.Notation
/-!
# JSON values and their compact text

A JSON value, with integers and floats apart. The compact text has no blanks, keeps the order of
fields and escapes only the quote, the backslash and the control characters. A serialization
package is a `Codec`, and `Codec.RoundTrips` is what it promises of its text.
-/

namespace Colonnade

/-- A JSON value; object fields keep their order. -/
inductive Json where
  | null
  | bool (b : Bool)
  | int (n : Int)
  | float (x : Float)
  | str (s : String)
  | arr (items : List Json)
  | obj (fields : List (String × Json))
  deriving Inhabited

namespace Json

/-- Floats in JSON: as in messages, with the words `Infinity` and `NaN` for the values that have
no numeral. -/
def floatNotation : Decimal.Notation :=
  { Decimal.Notation.plain with infinity := "Infinity", notANumber := "NaN" }

def hexDigit (n : Nat) : Char := if n < 10 then Char.ofNat (48 + n) else Char.ofNat (87 + n)

/-- The characters that stand for one character inside a string. -/
def escapeChar (c : Char) : List Char :=
  if c = '"' then ['\\', '"']
  else if c = '\\' then ['\\', '\\']
  else if c = '\n' then ['\\', 'n']
  else if c = '\r' then ['\\', 'r']
  else if c = '\t' then ['\\', 't']
  else if c = '\x08' then ['\\', 'b']
  else if c = '\x0c' then ['\\', 'f']
  else if c.toNat < 0x20 then ['\\', 'u', '0', '0', hexDigit (c.toNat / 16), hexDigit (c.toNat % 16)]
  else [c]

def quote (s : String) : String :=
  String.ofList ('"' :: s.toList.flatMap escapeChar ++ ['"'])

mutual
def render : Json → String
  | .null => "null"
  | .bool b => if b then "true" else "false"
  | .int n => toString n
  | .float x => floatNotation.render x
  | .str s => quote s
  | .arr items => "[" ++ renderItems items ++ "]"
  | .obj fields => "\x7b" ++ renderFields fields ++ "\x7d"

/-- The compact text of array items, separated by commas. -/
def renderItems : List Json → String
  | [] => ""
  | [j] => render j
  | j :: rest => render j ++ "," ++ renderItems rest

/-- The compact text of object fields, separated by commas. -/
def renderFields : List (String × Json) → String
  | [] => ""
  | [(k, v)] => quote k ++ ":" ++ render v
  | (k, v) :: rest => quote k ++ ":" ++ render v ++ "," ++ renderFields rest
end

def field? (j : Json) (k : String) : Option Json :=
  match j with
  | .obj fields => fields.lookup k
  | _ => none

def str? : Json → Option String
  | .str s => some s
  | _ => none

def int? : Json → Option Int
  | .int n => some n
  | _ => none

def arr? : Json → Option (List Json)
  | .arr items => some items
  | _ => none

def obj? : Json → Option (List (String × Json))
  | .obj fields => some fields
  | _ => none

def ofTexts (items : List String) : Json := .arr (items.map .str)

mutual
/-- Whether a test holds of a value and of every value inside it. -/
def all (p : Json → Bool) : Json → Bool
  | .arr items => p (.arr items) && allItems p items
  | .obj fields => p (.obj fields) && allFields p fields
  | j => p j

/-- Whether a test holds of every item of an array and every value inside one. -/
def allItems (p : Json → Bool) : List Json → Bool
  | [] => true
  | j :: rest => all p j && allItems p rest

/-- Whether a test holds of every field value of an object and every value inside one. -/
def allFields (p : Json → Bool) : List (String × Json) → Bool
  | [] => true
  | (_, j) :: rest => all p j && allFields p rest
end

def isFloat : Json → Bool
  | .float _ => true
  | _ => false

/-- Whether an integer is one that a 64-bit word holds, signed or unsigned: from `-2^63` to
`2^64 - 1`. -/
def inWord (n : Int) : Bool :=
  decide (-9223372036854775808 ≤ n) && decide (n < 18446744073709551616)

/-- Whether a value is no integer, or an integer that a 64-bit word holds. -/
def fitsWord : Json → Bool
  | .int n => inWord n
  | _ => true

/-- Whether a value is no object, or an object whose fields have distinct names. -/
def keysDistinct : Json → Bool
  | .obj fields => decide (fields.map Prod.fst).Nodup
  | _ => true

/-- A way of writing values as text and reading them back, such as the serialization package
documents are stored with. -/
structure Codec where
  encode : Json → String
  decode : String → Option Json

/-- What a serialization package promises of its text: a value without floats, whose integers a
64-bit word holds and whose objects have distinct field names, is read back as it was written. -/
def Codec.RoundTrips (c : Codec) : Prop :=
  ∀ j : Json, j.all (fun v => !v.isFloat) = true → j.all fitsWord = true →
    j.all keysDistinct = true → c.decode (c.encode j) = some j

end Json

end Colonnade
