import Colonnade.Context
import Colonnade.Fault
/-!
# Running sources

A run reads a source into a document and, if it staged no error, walks its records in order: a
value is given, an import runs a stored source, an export stores the document and ends the run, and
any other command goes to its handler. A run keeps the state it reached when it stops on a fault,
and a budget bounds the depth of nested runs.
-/

namespace Colonnade

open Colonnade.Text

/-- What runs carry: the context, and the host's journal of handler calls, oldest first, each as
the handler's label and the content it got. -/
structure Machine where
  context : Context
  journal : List (String × String) := []

/-- A computation of a run: it changes the machine and may stop on a fault, keeping the machine
as it was then. -/
abbrev Run := ExceptT Fault (StateM Machine)

/-- Where a source runs: the scope of its variables, none for the context's global variables,
and the names of the imports it is nested in, outermost first. -/
structure Frame where
  parameters : Option (Ledger String) := none
  stack : List String := []

/-- How to run a source in a frame, giving its values. -/
abbrev Runner := String → Frame → Run (List Value)

namespace Run

def context : Run Context := return (← get).context

def modifyContext (f : Context → Context) : Run Unit :=
  modify fun m => { m with context := f m.context }

/-- Runs a computation and gives its result or its fault, without stopping on the fault. -/
def attempt {α : Type} (x : Run α) : Run (Except Fault α) :=
  tryCatch (x.map .ok) (fun e => pure (.error e))

end Run

/-- The arguments of an import: its trimmed content cut at each comma, with the blanks after each
comma dropped. The first is the name of the export. -/
def importArguments (content : String) : List String :=
  match (trim content).toList.splitOn ',' with
  | [] => [""]
  | first :: rest => String.ofList first :: rest.map fun p => String.ofList (dropBlanks p)

/-- The parameters that an import's arguments after the name give the stored source: `0001`,
`0002`, and so on, in order. -/
def importParameters (args : List String) : Ledger String :=
  Ledger.ofList (args.zipIdx 1 |>.map fun (a, i) => (parameterName i, a))

/-- Stores a document as an export if its content is `default`, giving the values that end the
run. -/
def exportDocument (doc : Document) (source content : String) : Run (List Value) := do
  if content != exportDefault then return [.text content]
  let name := if doc.name.isEmpty then exportDefault else doc.name
  let c ← Run.context
  match c.files.exportAs name doc.content (stripDefaultExports source) with
  | none => throw (.duplicateExport name)
  | some files =>
    Run.modifyContext fun c => { c with files }
    return doc.values

/-- Imports an export: runs its stored source one level deeper, with the arguments as
parameters `0001`, `0002`, and so on. -/
def importExport (deeper : Runner) (content : String) (stack : List String) :
    Run (List Value) := do
  let args := importArguments content
  let name := args.headD ""
  let c ← Run.context
  match c.files.get? name with
  | none =>
    if c.settings.missingImport == .ignore then return []
    throw (.importNotFound name)
  | some file =>
    if name ∈ stack then throw (.importCycle (stack ++ [name]))
    let parameters := importParameters (args.drop 1)
    deeper file.source { parameters := some parameters, stack := stack ++ [name] }

/-- Runs a source on a new, empty context one level deeper; the machine's context is put back
afterwards, whatever the outcome. -/
def runFresh (deeper : Runner) (source : String) : Run (List Value) := do
  let saved ← Run.context
  Run.modifyContext fun _ => {}
  let r ← Run.attempt (deeper source {})
  Run.modifyContext fun _ => saved
  match r with
  | .ok vs => return vs
  | .error e => throw e

/-- Carries out a handler's action for a keyword. `limit` is the time an awaited handler may
take and `waited` the time it has waited so far. -/
def perform (deeper : Runner) (keyword : String) (awaited : Bool) (limit : Option Float) :
    Float → Action → Run Value
  | _, .give v => return v
  | _, .fail message => throw (.rejected keyword message)
  | _, .refuse k reason => throw (.rejected k reason)
  | _, .forget k v => do
    Run.modifyContext fun c => { c with keywords := c.keywords.erase k }
    return v
  | _, .runHere _ => throw (.rejected keyword (Fault.message .reentrant))
  | _, .runFresh source => do
    match ← Run.attempt (runFresh deeper source) with
    | .ok vs => return .list vs
    | .error (.rejected k reason) => throw (.rejected k reason)
    | .error (.timedOut k t) => throw (.timedOut k t)
    | .error e => throw (.rejected keyword e.message)
  | waited, .wait seconds next =>
    match limit with
    | some t =>
      if awaited && t ≤ waited + seconds then throw (.timedOut keyword t)
      else perform deeper keyword awaited limit (waited + seconds) next
    | none => perform deeper keyword awaited limit (waited + seconds) next

/-- Runs a command of a handler's keyword: notes the call in the journal, then carries out the
handler's action. A keyword whose handler was taken out since reading is unknown. -/
def callHandler (deeper : Runner) (keyword : String) (line : Int) (content : String) :
    Run Value := do
  let c ← Run.context
  match c.keywords.get? keyword with
  | none =>
    throw (.staged ⟨keyword, line, s!"Unknown keyword '{keyword}' (line:{line})", .unknownKeyword⟩)
  | some h =>
    match h.label with
    | some label => modify fun m => { m with journal := m.journal ++ [(label, content)] }
    | none => pure ()
    let calls := (← get).journal.length
    perform deeper keyword h.awaited c.settings.handlerTimeout 0 (h.act content calls)

/-- How a walk over the records ended: at the last record, or at an export. -/
inductive Walk where
  | finished (values : List Value)
  | exported (values : List Value)

/-- Walks the records of a document from some record on, the values so far in order. -/
def walk (deeper : Runner) (doc : Document) (source : String) (stack : List String) :
    List Record → List Value → Run Walk
  | [], acc => return .finished acc
  | .text _ _ v :: rest, acc => walk deeper doc source stack rest (acc ++ [.text v])
  | .array _ _ items :: rest, acc =>
    walk deeper doc source stack rest (acc ++ [Value.ofTexts items])
  | .error _ :: rest, acc => walk deeper doc source stack rest acc
  | .command kw line content :: rest, acc => do
    if kw == "im" then
      let vs ← importExport deeper content stack
      walk deeper doc source stack rest (acc ++ vs)
    else if kw == "ex" then
      return .exported (← exportDocument doc source content)
    else
      let v ← callHandler deeper kw line content
      walk deeper doc source stack rest (acc ++ [v])

/-- Runs a source in a frame, nested runs going to `deeper`. -/
def runWith (deeper : Runner) (source : String) (frame : Frame) : Run (List Value) := do
  let c ← Run.context
  let scope := frame.parameters.getD c.«variables»
  let reading := Document.read (c.readOptions frame.parameters.isSome) scope source
  if frame.parameters.isNone then
    Run.modifyContext fun c => { c with «variables» := reading.scope }
  match reading.doc.errors with
  | e :: _ => throw (.staged e)
  | [] =>
    match ← walk deeper reading.doc source frame.stack reading.doc.content.values [] with
    | .finished vs => return vs
    | .exported vs => return vs

/-- Runs a source in a frame, with a budget for the depth of nesting. -/
def runWithin : Nat → Runner
  | 0 => fun _ _ => throw .tooDeep
  | budget + 1 => runWith (runWithin budget)

/-- The depth of nesting that runs allow. -/
def nestingBudget : Nat := 320

/-- Runs a source against the machine's context, at the top. -/
def execute (source : String) : Run (List Value) := runWithin nestingBudget source {}

end Colonnade

namespace Colonnade

/-- Runs a computation on a machine, giving its result and the machine after it. -/
def Run.on {α : Type} (x : Run α) (m : Machine) : Except Fault α × Machine := x.run.run m

/-- Runs sources one after another on a machine, each to its own result. -/
def Machine.gather (m : Machine) : List String → List (Except Fault (List Value)) × Machine
  | [] => ([], m)
  | s :: rest =>
    let (r, m') := (execute s).on m
    let (rs, m'') := m'.gather rest
    (r :: rs, m'')

end Colonnade
