import Colonnade.Registry
import Colonnade.Settings
import Colonnade.Store
/-!
# Contexts

A context is all that reading and running a source use besides the source itself: the global
variables, the store of exports, the registry of handlers, and the settings.
-/

namespace Colonnade

/-- The state shared by the sources read and run against it. -/
structure Context where
  «variables» : Ledger String := {}
  files : Store := {}
  keywords : Registry := {}
  settings : Settings := {}

/-- A context with settings, its variables seeded from them. -/
def Context.ofSettings (s : Settings) : Context := { «variables» := s.«variables», settings := s }

/-- What reading against a context needs: its registry and its policy for `rm` lines. -/
def Context.readOptions (c : Context) (parameters : Bool) : ReadOptions :=
  { registered := c.keywords.contains, removeFails := c.settings.removeKeyword == .error,
    parameters }

/-- A text read against a context as a document, without running it: a line naming the document,
an empty line, and a value line for each line of the text. The reading writes the context's
variables as any reading at the top does. -/
def Context.textToDocument (c : Context) (text name : String) : Reading :=
  Document.read (c.readOptions false) c.«variables» (wrapText text name)

end Colonnade
