import Colonnade.Value
/-!
# Handlers

A host's own keywords are served by handlers. A handler gets a line's content after substitution
and answers with an action; only an awaited handler is held to the time limit of the settings.
-/

namespace Colonnade

/-- What a handler does with its content: give a value, fail, refuse on behalf of a keyword (the
refusal passes on as it is), take a keyword out of the registry and give a value, run a source on
the running context or on a new empty one and give its values, or wait some seconds and then act. -/
inductive Action where
  | give (v : Value)
  | fail (message : String)
  | refuse (keyword reason : String)
  | forget (keyword : String) (v : Value)
  | runHere (source : String)
  | runFresh (source : String)
  | wait (seconds : Float) (next : Action)

/-- A handler of a keyword: the name the host notes its calls under in the journal, if any,
whether it is awaited, and its action for a content given how many calls the journal holds. -/
structure Handler where
  label : Option String := none
  awaited : Bool := false
  act : String → Nat → Action

end Colonnade
