import Colonnade.Handler
import Colonnade.Decimal.Notation
import Colonnade.Text.Quoted
import Colonnade.Timestamp
/-!
# Host data

The dynamic values a host hands to the library, with their display text and, for keys, the place
text that names a wrong field.
-/

namespace Colonnade

/-- A value handed over by a host. -/
inductive Data where
  | null
  | bool (b : Bool)
  | int (n : Int)
  | float (x : Float)
  | text (s : String)
  | list (items : List Data)
  | map (fields : List (Data × Data))
  | handler (h : Handler)
  | stamp (t : Timestamp)
  | bytes (b : List UInt8)
  | tuple (items : List Data)
  | unpaired (s : String)

instance : Inhabited Data := ⟨.null⟩

namespace Data

mutual
def inner : Data → String
  | .text s => Text.quoted s
  | .unpaired s => Text.quoted s
  | d => display d

def display : Data → String
  | .null => "None"
  | .bool b => if b then "True" else "False"
  | .int n => toString n
  | .float x => Decimal.Notation.plain.render x
  | .text s => s
  | .list items => "[" ++ innerItems items ++ "]"
  | .map fields => "\x7b" ++ innerFields fields ++ "\x7d"
  | .handler _ => "<handler>"
  | .stamp t => t.isoText
  | .bytes b => Text.quotedBytes b
  | .tuple [d] => "(" ++ inner d ++ ",)"
  | .tuple items => "(" ++ innerItems items ++ ")"
  | .unpaired s => s

/-- The inner texts of items, separated by a comma and a space. -/
def innerItems : List Data → String
  | [] => ""
  | [d] => inner d
  | d :: rest => inner d ++ ", " ++ innerItems rest

/-- The inner texts of fields, each as key, colon, value. -/
def innerFields : List (Data × Data) → String
  | [] => ""
  | [(k, v)] => inner k ++ ": " ++ inner v
  | (k, v) :: rest => inner k ++ ": " ++ inner v ++ ", " ++ innerFields rest
end

/-- The name of a value's sort, as messages about it give it. -/
def sortName : Data → String
  | .null => "NoneType"
  | .bool _ => "bool"
  | .int _ => "int"
  | .float _ => "float"
  | .text _ => "str"
  | .list _ => "list"
  | .map _ => "dict"
  | .handler _ => "function"
  | .stamp t => if t.clock.isSome then "datetime" else "date"
  | .bytes _ => "bytes"
  | .tuple _ => "tuple"
  | .unpaired _ => "str"

/-- The text that names a key in the place of a wrong field. -/
def keyText : Data → String
  | .text s => s
  | .bool b => if b then "1" else "0"
  | .int n => toString n
  | .stamp t => t.constructorText
  | .unpaired s => s
  | d => inner d

/-- The value of a field of a map, looked up by a text key. -/
def field? (d : Data) (k : String) : Option Data :=
  match d with
  | .map fields => (fields.find? fun (key, _) => match key with
      | .text s => s == k
      | _ => false).map Prod.snd
  | _ => none

/-- The elements that going through a value visits: the characters of a text, the items of a
list, the keys of a map; none for a value that cannot be gone through. -/
def elements? : Data → Option (List Data)
  | .text s => some (s.toList.map fun c => .text (String.singleton c))
  | .list items => some items
  | .map fields => some (fields.map Prod.fst)
  | _ => none

end Data

end Colonnade
