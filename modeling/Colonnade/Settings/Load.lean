import Colonnade.Settings.Validation
import Colonnade.Text.Newline
import Colonnade.Yaml.Value
/-!
# Settings files

A settings file is read as YAML. A missing file gives the default settings, and so does a file
whose value is empty, null, false, zero or an empty text, list or map. Any other value must be a
mapping, whose fields are then checked as settings.
-/

namespace Colonnade

/-- Why a settings file could not be used; `badValue` is a value that does not convert, a fault of
the value rather than of the file's form. -/
inductive ConfigError where
  | unreadable (path : String) (e : Yaml.Failure)
  | notAMapping (path : String)
  | invalid (path : String) (faults : List FieldPath)
  | badValue (e : Yaml.Failure)

namespace ConfigError

def summary : ConfigError → String
  | .unreadable path _ => s!"Failed to parse {path}"
  | .notAMapping path => s!"{path} must contain a mapping at the top level"
  | .invalid path _ => s!"Invalid config {path}"
  | .badValue e => e.message ""

def message : ConfigError → String
  | .unreadable path e => s!"Failed to parse {path}: {e.message path}"
  | .notAMapping path => s!"{path} must contain a mapping at the top level"
  | .invalid path faults =>
    let n := faults.length
    let plural := if n == 1 then "" else "s"
    s!"Invalid config {path}: {n} validation error{plural} for Settings"
  | .badValue e => e.message ""

/-- The wrong fields as dotted places, sorted, each once; none for other errors. -/
def fields? : ConfigError → Option (List String)
  | .invalid _ faults => some (Settings.faultNames faults)
  | _ => none

end ConfigError

/-- Whether a value counts as empty: null, false, zero, or an empty text, list or map. -/
def Data.isEmptyValue : Data → Bool
  | .null => true
  | .bool b => !b
  | .int n => n == 0
  | .float x => x == 0.0
  | .text s => s.isEmpty
  | .list items => items.isEmpty
  | .map fields => fields.isEmpty
  | .handler _ => false
  | .stamp _ => false
  | .bytes b => b.isEmpty
  | .tuple items => items.isEmpty
  | .unpaired _ => false

/-- The settings of a file at a path, given its text, or none when there is no such file. -/
def Settings.load (path : String) (text : Option String) : Except ConfigError Settings :=
  match text with
  | none => .ok {}
  | some t =>
    match Yaml.load (Text.readAsText t) with
    | .error e => .error (if e.isForm then .unreadable path e else .badValue e)
    | .ok d =>
      let d := if d.isEmptyValue then .map [] else d
      match d with
      | .map _ =>
        match Settings.ofData d with
        | .ok s => .ok s
        | .error faults => .error (.invalid path faults)
      | _ => .error (.notAMapping path)

end Colonnade
