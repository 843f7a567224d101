import Colonnade.Fault
/-!
# Executions across contexts

A handler may execute a source on a context, so executions nest; the ones in progress in a task
are its frames, innermost first. An execution whose context the task is already executing against
is refused before it takes the lock; otherwise it holds the lock and marks its context active until
it ends, however it ends. A run is the calls its handlers make, in order.
-/
namespace Colonnade.Host

abbrev ContextId := Nat

/-- A call that the handlers of a run make: a handler of `keyword` executes a source on `target`,
whose run makes the calls `inner`, and catches a failure of it or not; or a handler fails, or is
cancelled. -/
inductive Call where
  | execute (keyword : String) (target : ContextId) (inner : List Call) (catches : Bool)
  | fail (f : Fault)

/-- What a failure of an execution becomes when the handler of `keyword` that started it lets it
through: a rejection of the keyword, unless it is a rejection or a timeout already. -/
def handlerFault (keyword : String) : Fault → Fault
  | .rejected k reason => .rejected k reason
  | .timedOut k limit => .timedOut k limit
  | e => .rejected keyword e.message

/-- What a failed execution leaves failing in the run that waits on it: nothing when the handler
that started it catches the failure, the handler's failure when it does not; the task's own
execution passes the failure on. -/
def passOn : Option (String × Bool) → Fault → Option Fault
  | none, e => some e
  | some (_, true), _ => none
  | some (keyword, false), e => some (handlerFault keyword e)

/-- An execution in progress: its context, the active contexts it puts back when it ends, the
handler that started it (none for the task's own execution) and the calls it has yet to make. -/
structure Frame where
  target : ContextId
  token : List ContextId
  handler : Option (String × Bool)
  rest : List Call

/-- A task executing sources: its frames, the contexts it is executing against, the locks it
holds, and a failure on its way out of the innermost execution. -/
structure Task where
  frames : List Frame
  active : List ContextId
  held : List ContextId
  failing : Option Fault := none

namespace Task

def chain (t : Task) : List ContextId := (t.frames.map Frame.target).reverse

/-- The call that the innermost execution makes next, unless a failure is on its way out. -/
def next? (t : Task) : Option Call :=
  match t.frames, t.failing with
  | f :: _, none => f.rest.head?
  | _, _ => none

/-- A task whose own code executes a source on `c`, making the calls `calls`, started with the
active contexts `base`. -/
def start (base : List ContextId) (c : ContextId) (calls : List Call) : Task :=
  if c ∈ base then { frames := [], active := base, held := [], failing := some .reentrant }
  else { frames := [⟨c, base, none, calls⟩], active := base ++ [c], held := [c] }

/-- The innermost execution `f` ends, with a failure left for the run that waited on it or not:
the active contexts are put back and the lock given back. -/
def leave (t : Task) (f : Frame) (fs : List Frame) (failing : Option Fault) : Task :=
  { frames := fs, active := f.token, held := t.held.erase f.target, failing }

/-- The innermost execution `f` goes on with the calls `cs`, a failure on its way out or not. -/
def advance (t : Task) (f : Frame) (fs : List Frame) (cs : List Call) (failing : Option Fault) :
    Task :=
  { t with frames := { f with rest := cs } :: fs, failing }

/-- An execution on `c` starts inside `f`, which goes on with `cs` once it ends: it keeps the active
contexts as its token, takes the lock of `c` and adds `c` to the active contexts. -/
def enter (t : Task) (f : Frame) (fs : List Frame) (cs : List Call) (c : ContextId)
    (handler : String × Bool) (inner : List Call) : Task :=
  { frames := ⟨c, t.active, some handler, inner⟩ :: { f with rest := cs } :: fs,
    active := t.active ++ [c], held := t.held ++ [c], failing := none }

/-- One step of a task: the innermost execution ends, or makes its next call. -/
def step (t : Task) : Option Task :=
  match t.frames with
  | [] => none
  | f :: fs =>
    match t.failing with
    | some e => some (t.leave f fs (passOn f.handler e))
    | none =>
      match f.rest with
      | [] => some (t.leave f fs none)
      | .fail e :: cs => some (t.advance f fs cs (some e))
      | .execute keyword c inner catches :: cs =>
        if c ∈ t.active then
          some (t.advance f fs cs (passOn (some (keyword, catches)) .reentrant))
        else some (t.enter f fs cs c (keyword, catches) inner)

end Task

/-- The tasks of a gather, each executing a source on a context and started with a copy of the
caller's active contexts. -/
def gather (base : List ContextId) (tasks : List (ContextId × List Call)) : List Task :=
  tasks.map fun task => Task.start base task.1 task.2

/-- One step of the event loop: the `i`-th task takes a step, if it has one left. -/
def stepAt (ts : List Task) (i : Nat) : List Task :=
  match ts[i]? >>= Task.step with
  | some t => ts.set i t
  | none => ts

/-- The tasks after the event loop has stepped them in the order of `schedule`. -/
def runSchedule (ts : List Task) (schedule : List Nat) : List Task := schedule.foldl stepAt ts

end Colonnade.Host
