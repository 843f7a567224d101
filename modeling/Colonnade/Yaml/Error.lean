import Colonnade.Text.Quoted
/-!
# Places and faults of a YAML text

A place is a position with its line and column from zero. A fault of form names what was being
read and what was found, with their places; building values may also fail the way the host's
conversions fail, which is reported apart from the form.
-/

namespace Colonnade.Yaml

/-- A place in a text: position, line and column, all from zero. -/
structure Mark where
  index : Nat
  line : Nat
  column : Nat
  deriving DecidableEq, Repr, Inhabited

/-- Why a YAML text could not be read: a fault of form with its places, a character that may not
stand in YAML, or a conversion of the host that failed. -/
inductive Failure where
  | form (context : Option String) (contextMark : Option Mark) (problem : String)
      (problemMark : Option Mark)
  | unacceptable (code : Nat) (position : Nat)
  | value (message : String)
  | index (message : String)
  | key (message : String)
  | attribute (message : String)
  | wrongType (message : String)
  deriving Repr, Inhabited

namespace Mark

def text (name : String) (m : Mark) : String :=
  s!"  in \"{name}\", line {m.line + 1}, column {m.column + 1}"

end Mark

namespace Failure

/-- Whether the failure is one of the YAML text itself, rather than of building a value. -/
def isForm : Failure → Bool
  | .form .. | .unacceptable .. => true
  | _ => false

def message (name : String) : Failure → String
  | .form context contextMark problem problemMark =>
    let sameMark := match contextMark, problemMark with
      | some c, some p => c.line == p.line && c.column == p.column
      | _, _ => false
    let lines := context.toList ++
      (match contextMark with
       | some c => if sameMark then [] else [c.text name]
       | none => []) ++
      [problem] ++ (problemMark.map (·.text name)).toList
    "\n".intercalate lines
  | .unacceptable code position =>
    let digits := Text.hexDigits 4 code
    s!"unacceptable character #x{String.ofList digits}: special characters are not allowed\n" ++
      s!"  in \"{name}\", position {position}"
  | .value m | .index m | .key m | .attribute m | .wrongType m => m

/-- The name of the kind of a failure that is not one of form. -/
def kindName : Failure → String
  | .form .. | .unacceptable .. => "YAMLError"
  | .value _ => "ValueError"
  | .index _ => "IndexError"
  | .key _ => "KeyError"
  | .attribute _ => "AttributeError"
  | .wrongType _ => "TypeError"

end Failure

/-- The quoted form of a character, as messages show what was found. -/
def showChar (c : Char) : String := Text.quoted (String.singleton c)

end Colonnade.Yaml
