import Colonnade.Engine
/-! # Executions run together on one context

The tasks of a gather run executions on one context; each holds the context's lock, which is
first come, first served, for its whole execution. `Loop.Step` is what the event loop may do
next: start the first task not started, end the holder's execution, or run the task the lock was
handed to.
-/

namespace Colonnade

/-- Where a task of a gather stands: not started, in the lock's queue, handed the lock but not
yet run again, holding it, or ended with an outcome. -/
inductive Phase where
  | fresh
  | queued
  | woken
  | holding
  | done (outcome : Except Fault (List Value))

namespace Phase

def outcome? : Phase → Option (Except Fault (List Value))
  | .done r => some r
  | _ => none

def ended (p : Phase) : Bool := p.outcome?.isSome

end Phase

/-- An event loop running the tasks of a gather on one machine: where each task stands, in the
gather's order, whether the lock is held, and the queue for it. -/
@[ext]
structure Loop where
  machine : Machine
  phases : List Phase
  locked : Bool := false
  waiters : List Nat := []

namespace Loop

def initial (m : Machine) (n : Nat) : Loop :=
  { machine := m, phases := List.replicate n .fresh }

/-- The `i`-th task asks for the lock: it takes it when the lock is free and nobody waits, and
joins the queue otherwise. -/
def acquire (L : Loop) (i : Nat) : Loop :=
  if !L.locked && L.waiters.isEmpty then
    { L with phases := L.phases.set i .holding, locked := true }
  else
    { L with phases := L.phases.set i .queued, waiters := L.waiters ++ [i] }

/-- The `i`-th task ends its execution with an outcome and the machine it left, and gives the lock
back: the first task of the queue is woken, and stays in the queue until it runs. -/
def release (L : Loop) (i : Nat) (outcome : Except Fault (List Value)) (m : Machine) : Loop :=
  let ended := L.phases.set i (.done outcome)
  let phases := match L.waiters with
    | j :: _ => ended.set j .woken
    | [] => ended
  { L with machine := m, phases, locked := false }

def resume (L : Loop) (i : Nat) : Loop :=
  { L with phases := L.phases.set i .holding, locked := true, waiters := L.waiters.erase i }

/-- The outcomes of the tasks that have ended, in the order of the gather. -/
def outcomes (L : Loop) : List (Except Fault (List Value)) := L.phases.filterMap Phase.outcome?

def Finished (L : Loop) : Prop := ∀ p ∈ L.phases, p.ended = true

instance (L : Loop) : Decidable L.Finished := inferInstanceAs (Decidable (∀ p ∈ L.phases, _))

/-- One step of a loop running the gather of `texts`. -/
inductive Step (texts : List String) : Loop → Loop → Prop
  | start {L : Loop} {i : Nat} (hi : L.phases[i]? = some .fresh)
      (hbefore : ∀ j < i, L.phases[j]? ≠ some .fresh) : Step texts L (L.acquire i)
  | finish {L : Loop} {i : Nat} {text : String} (hi : L.phases[i]? = some .holding)
      (htext : texts[i]? = some text) :
      Step texts L (L.release i ((execute text).on L.machine).1 ((execute text).on L.machine).2)
  | resume {L : Loop} {i : Nat} (hi : L.phases[i]? = some .woken) : Step texts L (L.resume i)

end Loop

end Colonnade
