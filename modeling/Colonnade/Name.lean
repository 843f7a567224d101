import Colonnade.Text.DecimalDigit
/-!
# Names and numerals

Variables are `$` and a run of ASCII letters, digits and underscores; an import's arguments are
named by positions written with four places or more; a value line's identifier is a numeral, with
digits of any script.
-/

namespace Colonnade

open Colonnade.Text

/-- Whether a character may stand in a variable's name. -/
def isNameChar (c : Char) : Bool := c.isAlphanum || c == '_'

/-- Whether a word names a parameter: four or more decimal digits. -/
def isParameterName (s : String) : Bool := 4 ≤ s.length && s.toList.all isDecimalDigit

/-- The name of the parameter at a position: its decimal numeral, padded with zeros after the sign
to four places in all. -/
def parameterName (p : Int) : String :=
  let digits := (toString p.natAbs).toList
  let sign := if p < 0 then ['-'] else []
  String.ofList (sign ++ List.replicate (4 - sign.length - digits.length) '0' ++ digits)

def allDigits (cs : List Char) : Bool := !cs.isEmpty && cs.all isDecimalDigit

/-- Whether characters form a numeral: an optional minus, digits, and an optional point followed by
digits. -/
def isNumeralChars (cs : List Char) : Bool :=
  let body := match cs with
    | '-' :: r => r
    | r => r
  let whole := body.takeWhile isDecimalDigit
  match body.dropWhile isDecimalDigit with
  | [] => !whole.isEmpty
  | '.' :: frac => !whole.isEmpty && allDigits frac
  | _ => false

def isNumeral (s : String) : Bool := isNumeralChars s.toList

end Colonnade
