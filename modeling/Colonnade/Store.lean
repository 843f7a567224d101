import Colonnade.Document.Read
/-!
# The store of exports

A document that exports itself by default is stored under its name: its records as they stood,
and its source without the lines that export by default, so that running the stored source again
does not export again. Each name is stored once; names keep the order of their exports.
-/

namespace Colonnade

/-- An exported document, with the exporting source without its default-export lines. -/
structure ExportedFile where
  name : String
  content : Ledger Record
  source : String
  deriving DecidableEq, Repr

/-- Exported documents by name, in order of export. -/
structure Store where
  files : Ledger ExportedFile := {}
  deriving DecidableEq, Repr

namespace Store

def get? (s : Store) (name : String) : Option ExportedFile := s.files.get? name

def names (s : Store) : List String := s.files.keys

/-- Stores a document under a new name; a name already taken is refused. -/
def exportAs (s : Store) (name : String) (content : Ledger Record) (source : String) :
    Option Store :=
  if s.files.contains name then none else some ⟨s.files.insert name ⟨name, content, source⟩⟩

/-- The empty store. -/
def clear (_ : Store) : Store := {}

end Store

/-- A source without its lines that export by default, each other line kept as written. -/
def stripDefaultExports (source : String) : String :=
  let skip := (readLines source).filterMap fun (n, l) =>
    if l.any Line.isDefaultExport then some n else none
  if skip.isEmpty then source
  else String.ofList <| ['\n'].intercalate <|
    ((source.toList.splitOn '\n').zipIdx 1).filterMap fun (raw, n) =>
      if n ∈ skip then none else some raw

end Colonnade
