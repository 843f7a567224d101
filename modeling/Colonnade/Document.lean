import Colonnade.Ledger
import Colonnade.Value
/-!
# Documents and records

A document is a name and its records, keyed by identifier in the order identifiers first appeared.
Every record keeps the keyword and the number of the line that wrote it, an integer: reading
numbers lines from one, and a document read back from JSON may hold any integer there.
-/

namespace Colonnade

/-- Why a line could not be read. -/
inductive ErrorKind where
  | invalidSyntax | unknownVariable | unknownKeyword | arrayNotFound | notANumber
  | notImplemented | duplicateIdentifier
  deriving DecidableEq, Repr

/-- The name of an error kind, as records and error reports spell it. -/
def ErrorKind.text : ErrorKind → String
  | .invalidSyntax => "syntax"
  | .unknownVariable => "unknown_variable"
  | .unknownKeyword => "unknown_keyword"
  | .arrayNotFound => "array_not_found"
  | .notANumber => "not_a_number"
  | .notImplemented => "not_implemented"
  | .duplicateIdentifier => "duplicate_identifier"

def ErrorKind.all : List ErrorKind :=
  [.invalidSyntax, .unknownVariable, .unknownKeyword, .arrayNotFound, .notANumber,
   .notImplemented, .duplicateIdentifier]

def ErrorKind.ofText? (s : String) : Option ErrorKind := ErrorKind.all.find? (·.text == s)

/-- An error staged while reading a line. -/
structure StagedError where
  keyword : String
  line : Int
  message : String
  kind : ErrorKind
  deriving DecidableEq, Repr

/-- An entry of a document: a text, an array of texts, an error staged while reading, or a command
(an import, an export or a handler's keyword) run when the document runs. -/
inductive Record where
  | text (keyword : String) (line : Int) (value : String)
  | array (keyword : String) (line : Int) (items : List String)
  | error (e : StagedError)
  | command (keyword : String) (line : Int) (value : String)
  deriving DecidableEq, Repr

namespace Record

def keyword : Record → String
  | .text k _ _ | .array k _ _ | .command k _ _ => k
  | .error e => e.keyword

def line : Record → Int
  | .text _ n _ | .array _ n _ | .command _ n _ => n
  | .error e => e.line

def error? : Record → Option StagedError
  | .error e => some e
  | _ => none

/-- The value that a text or an array contributes when a document gives its values. -/
def value? : Record → Option Value
  | .text _ _ v => some (.text v)
  | .array _ _ items => some (Value.ofTexts items)
  | _ => none

end Record

/-- A document: a name and records by identifier, in order of first appearance. -/
structure Document where
  name : String := ""
  content : Ledger Record := {}
  deriving DecidableEq, Repr

namespace Document

/-- The staged errors, in the order of their identifiers. -/
def errors (d : Document) : List StagedError := d.content.values.filterMap Record.error?

/-- The text and array values, in the order of their identifiers. -/
def values (d : Document) : List Value := d.content.values.filterMap Record.value?

end Document

end Colonnade
