import Colonnade.Text.Quoted
/-!
# Values

What running a document produces: a list of values. A value is a text, an integer, nothing, or a
list of values; value lines give texts, arrays give lists of texts, and handlers may give any
value.
-/

namespace Colonnade

/-- A value produced by running a document. -/
inductive Value where
  | text (s : String)
  | int (n : Int)
  | null
  | list (items : List Value)
  deriving Repr

namespace Value

def ofTexts (items : List String) : Value := .list (items.map .text)

mutual
def beq : Value → Value → Bool
  | .text a, .text b => a == b
  | .int a, .int b => a == b
  | .null, .null => true
  | .list as, .list bs => beqList as bs
  | _, _ => false

def beqList : List Value → List Value → Bool
  | [], [] => true
  | a :: as, b :: bs => beq a b && beqList as bs
  | _, _ => false
end

instance : BEq Value := ⟨beq⟩

mutual
/-- The display text of a value: a text as itself, an integer in decimal, nothing as `None`, and
a list in brackets with its items quoted. -/
def display : Value → String
  | .text s => s
  | .int n => toString n
  | .null => "None"
  | .list items => "[" ++ innerItems items ++ "]"

/-- The texts of items inside a displayed list, separated by a comma and a space. -/
def innerItems : List Value → String
  | [] => ""
  | [v] => inner v
  | v :: rest => inner v ++ ", " ++ innerItems rest

/-- The text of a value inside a displayed list: a text quoted, other values displayed. -/
def inner : Value → String
  | .text s => Text.quoted s
  | v => display v
end

end Value

end Colonnade
