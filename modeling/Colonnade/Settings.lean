import Colonnade.Ledger
/-!
# Settings

What a context is configured with: how long an awaited handler may take, what an import of an
unknown name does, what an `rm` line does, the variables to start with, and the plugins to load.
-/

namespace Colonnade

/-- What happens on an import of an unknown name, or on an `rm` line: an error, or nothing. -/
inductive Policy where
  | error
  | ignore
  deriving DecidableEq, Repr

def Policy.text : Policy → String
  | .error => "error"
  | .ignore => "ignore"

/-- The settings of a context; the handler time limit is in seconds, none for no limit. -/
structure Settings where
  handlerTimeout : Option Float := some 30.0
  missingImport : Policy := .error
  removeKeyword : Policy := .error
  «variables» : Ledger String := {}
  plugins : List String := []

end Colonnade
