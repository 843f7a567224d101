import Colonnade.Document
import Colonnade.Decimal.Notation
/-!
# Faults of a run

Why running a source stopped: a staged error of its document, an export under a taken name, an
unknown name or a name already being imported in an import line, a handler that failed or took
too long, a handler that ran source on its own context, or runs nested deeper than the budget.
-/

namespace Colonnade

/-- Why a run stopped; an import cycle lists the names from the outermost import on. -/
inductive Fault where
  | staged (e : StagedError)
  | duplicateExport (name : String)
  | importNotFound (name : String)
  | importCycle (chain : List String)
  | rejected (keyword reason : String)
  | timedOut (keyword : String) (limit : Float)
  | reentrant
  | tooDeep

def Fault.message : Fault → String
  | .staged e => "Execution error: " ++ e.message
  | .duplicateExport name => s!"File '{name}' already exists"
  | .importNotFound name => s!"Import not found: {name}"
  | .importCycle chain => "Import cycle: " ++ " -> ".intercalate chain
  | .rejected keyword reason => s!"Keyword '{keyword}' failed: {reason}"
  | .timedOut keyword limit =>
    s!"Keyword '{keyword}' failed: timed out after {Decimal.Notation.plain.render limit}s"
  | .reentrant => "A handler cannot execute source on the context that is running it"
  | .tooDeep => "maximum recursion depth exceeded"

end Colonnade
