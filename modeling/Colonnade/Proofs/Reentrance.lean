import Colonnade.Host
import Colonnade.Proofs.Runs
/-! # The guard against reentrance is exact

A task's active contexts are those it started with followed by those of its executions in progress,
whose locks it holds (`Task.Guarded`); one step keeps this, so every schedule of a gather does
(`guarded_runSchedule`). Hence the guard refuses exactly the reentrant executions
(`reentry_refused_exactly`), and the engine's handler calls fail as the tasks that make their
calls do (`perform_simulated_by_task`).
-/
namespace Colonnade.Host

/-- Each execution in progress began with the active contexts that the task started with and those
of the executions around it. -/
def TokensFrom (base : List ContextId) : List Frame → Prop
  | [] => True
  | f :: fs => f.token = base ++ (fs.map Frame.target).reverse ∧ TokensFrom base fs

namespace Task

/-- What holds at every step of a task started with the active contexts `base`. -/
structure Guarded (base : List ContextId) (t : Task) : Prop where
  active_eq : t.active = base ++ t.chain
  held_eq : t.held = t.chain
  chain_nodup : t.chain.Nodup
  tokens : TokensFrom base t.frames

variable {t t' : Task} {f : Frame} {fs : List Frame}

theorem chain_of_frames (h : t.frames = f :: fs) :
    t.chain = (fs.map Frame.target).reverse ++ [f.target] := by
  simp [chain, h]

/-! ## One step -/

theorem step_of_failing {e : Fault} (hf : t.frames = f :: fs) (he : t.failing = some e) :
    t.step = some (t.leave f fs (passOn f.handler e)) := by
  simp [step, hf, he]

theorem step_of_done (hf : t.frames = f :: fs) (he : t.failing = none) (hr : f.rest = []) :
    t.step = some (t.leave f fs none) := by
  simp [step, hf, he, hr]

theorem step_of_fail {e : Fault} {cs : List Call} (hf : t.frames = f :: fs)
    (he : t.failing = none) (hr : f.rest = .fail e :: cs) :
    t.step = some (t.advance f fs cs (some e)) := by
  simp [step, hf, he, hr]

theorem step_of_refused {keyword : String} {c : ContextId} {inner cs : List Call}
    {catches : Bool} (hf : t.frames = f :: fs) (he : t.failing = none)
    (hr : f.rest = .execute keyword c inner catches :: cs) (hc : c ∈ t.active) :
    t.step = some (t.advance f fs cs (passOn (some (keyword, catches)) .reentrant)) := by
  simp [step, hf, he, hr, hc]

theorem step_of_enter {keyword : String} {c : ContextId} {inner cs : List Call}
    {catches : Bool} (hf : t.frames = f :: fs) (he : t.failing = none)
    (hr : f.rest = .execute keyword c inner catches :: cs) (hc : c ∉ t.active) :
    t.step = some (t.enter f fs cs c (keyword, catches) inner) := by
  simp [step, hf, he, hr, hc]

@[simp] theorem chain_advance (hf : t.frames = f :: fs) (cs : List Call) (failing : Option Fault) :
    (t.advance f fs cs failing).chain = t.chain := by
  simp [chain, advance, hf]

@[simp] theorem chain_enter (hf : t.frames = f :: fs) (cs : List Call) (c : ContextId)
    (handler : String × Bool) (inner : List Call) :
    (t.enter f fs cs c handler inner).chain = t.chain ++ [c] := by
  simp [chain, enter, hf]

/-- What a step can do: end the innermost execution, make a call that starts no execution, or start
an execution on a context that is not active. -/
theorem step_cases (h : t.step = some t') :
    (∃ f fs failing, t.frames = f :: fs ∧ t' = t.leave f fs failing) ∨
    (∃ f fs cs failing, t.frames = f :: fs ∧ t' = t.advance f fs cs failing) ∨
    (∃ f fs cs c handler inner, t.frames = f :: fs ∧ c ∉ t.active ∧
      t' = t.enter f fs cs c handler inner) := by
  cases hf : t.frames with
  | nil => simp [step, hf] at h
  | cons f fs =>
    cases he : t.failing with
    | some e =>
      rw [step_of_failing hf he] at h
      exact .inl ⟨f, fs, _, rfl, (Option.some.inj h).symm⟩
    | none =>
      cases hr : f.rest with
      | nil =>
        rw [step_of_done hf he hr] at h
        exact .inl ⟨f, fs, _, rfl, (Option.some.inj h).symm⟩
      | cons call cs =>
        cases call with
        | fail e =>
          rw [step_of_fail hf he hr] at h
          exact .inr (.inl ⟨f, fs, cs, _, rfl, (Option.some.inj h).symm⟩)
        | execute keyword c inner catches =>
          by_cases hc : c ∈ t.active
          · rw [step_of_refused hf he hr hc] at h
            exact .inr (.inl ⟨f, fs, cs, _, rfl, (Option.some.inj h).symm⟩)
          · rw [step_of_enter hf he hr hc] at h
            exact .inr (.inr ⟨f, fs, cs, c, _, inner, rfl, hc, (Option.some.inj h).symm⟩)

/-! ## The invariant along a run -/

variable {base : List ContextId}

theorem Guarded.frame_tokens (hg : Guarded base t) (hf : t.frames = f :: fs) :
    TokensFrom base (f :: fs) :=
  hf ▸ hg.tokens

/-- The innermost execution ends: the tokens put back the active contexts around it, and its lock
was the last one taken. -/
theorem Guarded.leave (hg : Guarded base t) (hf : t.frames = f :: fs) (failing : Option Fault) :
    Guarded base (t.leave f fs failing) := by
  have hchain := chain_of_frames hf
  have htokens := hg.frame_tokens hf
  have hnodup : ((fs.map Frame.target).reverse ++ [f.target]).Nodup := hchain ▸ hg.chain_nodup
  have hout : f.target ∉ (fs.map Frame.target).reverse := by
    intro hmem
    exact (List.nodup_append.1 hnodup).2.2 _ hmem _ (List.mem_singleton_self _) rfl
  refine ⟨htokens.1, ?_, (List.nodup_append.1 hnodup).1, htokens.2⟩
  show t.held.erase f.target = (fs.map Frame.target).reverse
  rw [hg.held_eq, hchain, List.erase_append_right _ hout, List.erase_cons_head, List.append_nil]

/-- A call that starts no execution keeps the executions in progress as they are. -/
theorem Guarded.advance (hg : Guarded base t) (hf : t.frames = f :: fs) (cs : List Call)
    (failing : Option Fault) : Guarded base (t.advance f fs cs failing) := by
  have htokens := hg.frame_tokens hf
  refine ⟨?_, ?_, (chain_advance hf cs failing).symm ▸ hg.chain_nodup, htokens⟩
  · rw [chain_advance hf]
    exact hg.active_eq
  · rw [chain_advance hf]
    exact hg.held_eq

/-- An execution starts on a context that is not active: its token is the active contexts, and its
context joins them and the locks. -/
theorem Guarded.enter (hg : Guarded base t) (hf : t.frames = f :: fs) {c : ContextId}
    (hc : c ∉ t.active) (cs : List Call) (handler : String × Bool) (inner : List Call) :
    Guarded base (t.enter f fs cs c handler inner) := by
  have hchain := chain_enter hf cs c handler inner
  have hnot : c ∉ t.chain := fun h => hc (hg.active_eq ▸ List.mem_append_right _ h)
  have htokens := hg.frame_tokens hf
  refine ⟨?_, ?_, ?_, ?_⟩
  · show t.active ++ [c] = _
    rw [hchain, hg.active_eq, List.append_assoc]
  · show t.held ++ [c] = _
    rw [hchain, hg.held_eq]
  · rw [hchain]
    exact List.nodup_append.2 ⟨hg.chain_nodup, List.pairwise_singleton _ c,
      fun a ha b hb hab => hnot (List.mem_singleton.1 hb ▸ hab ▸ ha)⟩
  · -- the new execution's token is the active contexts, those around it
    refine ⟨?_, htokens⟩
    show t.active = base ++ (({ f with rest := cs } :: fs).map Frame.target).reverse
    rw [hg.active_eq, chain_of_frames hf]
    simp

theorem Guarded.step (hg : Guarded base t) (h : t.step = some t') : Guarded base t' := by
  rcases step_cases h with ⟨f, fs, failing, hf, rfl⟩ | ⟨f, fs, cs, failing, hf, rfl⟩ |
    ⟨f, fs, cs, c, handler, inner, hf, hc, rfl⟩
  · exact hg.leave hf failing
  · exact hg.advance hf cs failing
  · exact hg.enter hf hc cs handler inner

theorem guarded_start (base : List ContextId) (c : ContextId) (calls : List Call) :
    Guarded base (start base c calls) := by
  unfold start
  split
  · exact ⟨by simp [chain], by simp [chain], by simp [chain], trivial⟩
  · exact ⟨by simp [chain], by simp [chain], by simp [chain], by simp [TokensFrom]⟩

end Task

/-- Every task of a gather keeps the invariant, whatever order the event loop steps them in. -/
theorem guarded_runSchedule (base : List ContextId) :
    ∀ (schedule : List Nat) (ts : List Task), (∀ u ∈ ts, u.Guarded base) →
      ∀ u ∈ runSchedule ts schedule, u.Guarded base
  | [], _, h => h
  | i :: is, ts, h => by
    refine guarded_runSchedule base is (stepAt ts i) ?_
    intro u hu
    unfold stepAt at hu
    split at hu
    · rename_i t' ht'
      obtain ⟨t, hti, hstep⟩ := Option.bind_eq_some_iff.1 ht'
      rcases List.mem_or_eq_of_mem_set hu with hu | rfl
      · exact h u hu
      · exact (h t (List.mem_of_getElem? hti)).step hstep
    · exact h u hu

theorem guarded_gather (base : List ContextId) (tasks : List (ContextId × List Call)) :
    ∀ u ∈ gather base tasks, u.Guarded base := by
  intro u hu
  obtain ⟨task, -, rfl⟩ := List.mem_map.1 hu
  exact Task.guarded_start base task.1 task.2

namespace Task

variable {base : List ContextId} {t : Task}

theorem next?_eq_some {call : Call} (h : t.next? = some call) :
    ∃ f fs cs, t.frames = f :: fs ∧ t.failing = none ∧ f.rest = call :: cs := by
  unfold next? at h
  split at h
  · rename_i f fs hf he
    cases hr : f.rest with
    | nil => rw [hr] at h; cases h
    | cons call' cs =>
      rw [hr, List.head?_cons, Option.some.injEq] at h
      exact ⟨f, fs, cs, hf, he, h ▸ hr⟩
  · cases h

/-- In a guarded task, an execution about to start on a context is refused, leaving the
executions, the locks and the active contexts as they were, exactly when the context is active;
otherwise it starts, on a lock that the task does not hold. -/
theorem Guarded.next_execute (hg : Guarded base t) {keyword : String} {c : ContextId}
    {inner : List Call} {catches : Bool}
    (hnext : t.next? = some (.execute keyword c inner catches)) :
    ∃ t', t.step = some t' ∧
      (c ∈ base ++ t.chain → t'.chain = t.chain ∧ t'.active = t.active ∧
        t'.held = t.held ∧ t'.failing = passOn (some (keyword, catches)) .reentrant) ∧
      (c ∉ base ++ t.chain → c ∉ t.held ∧ t'.chain = t.chain ++ [c] ∧
        t'.active = t.active ++ [c] ∧ t'.held = t.held ++ [c]) := by
  obtain ⟨f, fs, cs, hf, he, hr⟩ := next?_eq_some hnext
  by_cases hc : c ∈ t.active
  · -- refused at once: nothing is taken and nothing starts
    have hkept := chain_advance hf cs (passOn (some (keyword, catches)) .reentrant)
    refine ⟨_, step_of_refused hf he hr hc, fun _ => ⟨hkept, rfl, rfl, rfl⟩, ?_⟩
    intro hn
    exact absurd (hg.active_eq ▸ hc) hn
  · -- starts: its context joins the active contexts and the locks
    refine ⟨_, step_of_enter hf he hr hc, fun hm => absurd (hg.active_eq ▸ hm) hc, ?_⟩
    intro _
    have hfree : c ∉ t.held := fun hh =>
      hc (hg.active_eq ▸ List.mem_append_right _ (hg.held_eq ▸ hh))
    exact ⟨hfree, chain_enter hf cs c _ inner, rfl, rfl⟩

/-- In a guarded task, an execution that ends, by returning or failing, puts back the active
contexts it began with: those the task started with and those of the executions around it. -/
theorem Guarded.leave_restores (hg : Guarded base t) {f : Frame} {fs : List Frame} {t' : Task}
    (hf : t.frames = f :: fs) (hstep : t.step = some t') (hleft : t'.frames = fs) :
    t'.active = f.token ∧ f.token = base ++ t'.chain := by
  have htokens := hg.frame_tokens hf
  -- only a step that ends the innermost execution leaves the frames around it
  rcases step_cases hstep with ⟨f', fs', failing, hf', rfl⟩ |
    ⟨f', fs', cs, failing, hf', rfl⟩ | ⟨f', fs', cs, c, handler, inner, hf', -, rfl⟩
  · obtain ⟨rfl, rfl⟩ := List.cons.inj (hf.symm.trans hf')
    exact ⟨rfl, htokens.1⟩
  · obtain ⟨-, rfl⟩ := List.cons.inj (hf.symm.trans hf')
    exact absurd hleft (List.cons_ne_self _ _)
  · obtain ⟨-, rfl⟩ := List.cons.inj (hf.symm.trans hf')
    have hlen := congrArg List.length hleft
    simp only [Task.enter, List.length_cons] at hlen
    omega

/-- A handler of the innermost execution that executes a source on the context running it is
refused, and when it lets the refusal through it fails with `handlerFault keyword .reentrant`, the
fault that the engine gives for such a handler (`perform_fails_as_handlerFault`). -/
theorem Guarded.own_context_refused (hg : Guarded base t) {f : Frame} {fs : List Frame}
    (hf : t.frames = f :: fs) {keyword : String} {inner : List Call}
    (hnext : t.next? = some (.execute keyword f.target inner false)) :
    ∃ t', t.step = some t' ∧ t'.chain = t.chain ∧ t'.held = t.held ∧
      t'.failing = some (handlerFault keyword .reentrant) := by
  have hown : f.target ∈ base ++ t.chain := by
    rw [chain_of_frames hf]
    exact List.mem_append_right _ (List.mem_append_right _ (List.mem_singleton_self _))
  obtain ⟨t', hstep, hrefused, -⟩ := hg.next_execute hnext
  obtain ⟨hchain, -, hheld, hfailing⟩ := hrefused hown
  exact ⟨t', hstep, hchain, hheld, hfailing⟩

end Task

/-- The guard against reentrance is exact, at every step of every task of a gather and whatever
order the event loop steps the tasks in. A task's active contexts are the caller's, copied when it
started, followed by those of its own executions in progress, whose locks it holds: the executions
of its siblings never count. An execution about to start on a context is refused exactly when the
context is the caller's or that of an enclosing execution, and then before it takes the lock or
runs anything: the executions, the locks and the active contexts stay as they were, and the handler
that asked catches the refusal or fails with it. Otherwise it starts, on a lock that no enclosing
execution holds. An execution that ends, by returning or failing, puts the active contexts back as
they were when it began. -/
theorem reentry_refused_exactly (base : List ContextId) (tasks : List (ContextId × List Call))
    (schedule : List Nat) {t : Task} (ht : t ∈ runSchedule (gather base tasks) schedule) :
    t.active = base ++ t.chain ∧ t.held = t.chain ∧
      (∀ keyword c inner catches, t.next? = some (.execute keyword c inner catches) →
        ∃ t', t.step = some t' ∧
          (c ∈ base ++ t.chain → t'.chain = t.chain ∧ t'.active = t.active ∧
            t'.held = t.held ∧ t'.failing = passOn (some (keyword, catches)) .reentrant) ∧
          (c ∉ base ++ t.chain → c ∉ t.held ∧ t'.chain = t.chain ++ [c] ∧
            t'.active = t.active ++ [c] ∧ t'.held = t.held ++ [c])) ∧
      (∀ f fs t', t.frames = f :: fs → t.step = some t' → t'.frames = fs →
        t'.active = f.token ∧ f.token = base ++ t'.chain) := by
  have hg : t.Guarded base :=
    guarded_runSchedule base schedule _ (guarded_gather base tasks) t ht
  exact ⟨hg.active_eq, hg.held_eq, fun _ _ _ _ hnext => hg.next_execute hnext,
    fun _ _ _ hf hstep hleft => hg.leave_restores hf hstep hleft⟩

/-- A task on context 1 whose handler executes on context 2, whose own handler executes on 1 again:
after one step the execution on 1 is about to start inside the one on 2, and it is refused. -/
theorem reentry_refused_exactly_nested :
    ∃ t ∈ runSchedule (gather [] [(1, [.execute "h" 2 [.execute "g" 1 [] false] false])]) [0],
      ∃ t', t.step = some t' ∧ t'.chain = [1, 2] ∧ t'.held = [1, 2] ∧
        t'.failing = some (handlerFault "g" .reentrant) := by
  refine ⟨_, .head _, ?_⟩
  obtain ⟨-, -, hexecute, -⟩ := reentry_refused_exactly []
    [(1, [.execute "h" 2 [.execute "g" 1 [] false] false])] [0] (.head _)
  obtain ⟨t', hstep, hrefused, -⟩ := hexecute "g" 1 [] false rfl
  obtain ⟨hchain, -, hheld, hfailing⟩ := hrefused (by decide)
  exact ⟨t', hstep, hchain, hheld, hfailing⟩

/-! ## The engine's side

The engine runs a handler's source either on the context running the handler, always active and
so always refused, or on a new context, never active. `perform_simulated_by_task` says that a task
making the same calls ends as the engine's handler call does. -/

/-- A handler that runs a source on its own context fails with the refusal made the handler's
fault, and leaves the machine as it was; a failed run on a new context fails the handler with
that failure made the handler's fault. -/
theorem perform_fails_as_handlerFault (deeper : Runner) (keyword : String) (awaited : Bool)
    (limit : Option Float) (waited : Float) (source : String) (m : Machine) :
    (perform deeper keyword awaited limit waited (.runHere source)).on m =
        (.error (handlerFault keyword .reentrant), m) ∧
      ∀ e m', (runFresh deeper source).on m = (.error e, m') →
        (perform deeper keyword awaited limit waited (.runFresh source)).on m =
          (.error (handlerFault keyword e), m') := by
  refine ⟨rfl, fun e m' h => ?_⟩
  simp only [perform]
  rw [Run.on_bind, Run.on_attempt, h]
  -- the engine passes rejections and timeouts on as they are, like `handlerFault`
  cases e <;> rfl

/-- The fault an outcome fails with, if it fails. -/
def faultOf {α : Type} : Except Fault α → Option Fault
  | .error e => some e
  | .ok _ => none

/-- The calls a handler's action makes, as a task sees them, when the handler runs on `self` and a
run on a new context gets `fresh` and fails inside as `inner` says: a failure, a refusal or the
time limit fails the handler, and a run executes a source on its context. -/
def actionCalls (keyword : String) (awaited : Bool) (limit : Option Float) (self fresh : ContextId)
    (inner : String → Option Fault) : Float → Action → List Call
  | _, .give _ | _, .forget _ _ => []
  | _, .fail message => [.fail (.rejected keyword message)]
  | _, .refuse k reason => [.fail (.rejected k reason)]
  | _, .runHere _ => [.execute keyword self [] false]
  | _, .runFresh source => [.execute keyword fresh ((inner source).toList.map .fail) false]
  | waited, .wait seconds next =>
    match limit with
    | some t =>
      if awaited && t ≤ waited + seconds then [.fail (.timedOut keyword t)]
      else actionCalls keyword awaited limit self fresh inner (waited + seconds) next
    | none => actionCalls keyword awaited limit self fresh inner (waited + seconds) next

section Started

variable {base : List ContextId} {self : ContextId}

/-! Runs of a task started on `self` with one handler's calls: each ends within four steps, its
active contexts back to `base` and no lock held. -/

theorem runSchedule_start_nil (hself : self ∉ base) :
    runSchedule [Task.start base self []] [0, 0, 0, 0] =
      [{ frames := [], active := base, held := [], failing := none }] := by
  simp [runSchedule, stepAt, Task.start, Task.step, Task.leave, hself]

theorem runSchedule_start_fail (hself : self ∉ base) (e : Fault) :
    runSchedule [Task.start base self [.fail e]] [0, 0, 0, 0] =
      [{ frames := [], active := base, held := [], failing := some e }] := by
  simp [runSchedule, stepAt, Task.start, Task.step, Task.leave, Task.advance, hself, passOn]

theorem runSchedule_start_own (hself : self ∉ base) (keyword : String) :
    runSchedule [Task.start base self [.execute keyword self [] false]] [0, 0, 0, 0] =
      [{ frames := [], active := base, held := [],
         failing := some (handlerFault keyword .reentrant) }] := by
  simp [runSchedule, stepAt, Task.start, Task.step, Task.leave, Task.advance, hself, passOn]

theorem runSchedule_start_fresh (hself : self ∉ base) {fresh : ContextId} (hfresh : fresh ∉ base)
    (hne : fresh ≠ self) (keyword : String) (inner : Option Fault) :
    runSchedule [Task.start base self [.execute keyword fresh (inner.toList.map .fail) false]]
        [0, 0, 0, 0] =
      [{ frames := [], active := base, held := [], failing := inner.map (handlerFault keyword) }] := by
  cases inner <;> simp [runSchedule, stepAt, Task.start, Task.step, Task.leave, Task.advance,
    Task.enter, hself, hfresh, hne, hne.symm, passOn]

end Started

/-- The engine's handler calls are simulated by the tasks: for every action of a handler running
on `self`, a task started on `self` with the calls the action makes, a run on a new context
failing inside as the engine's run fails, ends failing exactly as the engine's call fails, with
the active contexts put back and no lock held. So the engine refuses a run on the handler's own
context and lets a run on a new one through, as the guard of the tasks does. -/
theorem perform_simulated_by_task (deeper : Runner) (keyword : String) (awaited : Bool)
    (limit : Option Float) (m : Machine) {base : List ContextId} {self fresh : ContextId}
    (hself : self ∉ base) (hfresh : fresh ∉ base) (hne : fresh ≠ self) :
    ∀ (waited : Float) (a : Action),
      runSchedule [Task.start base self (actionCalls keyword awaited limit self fresh
          (fun source => faultOf ((runFresh deeper source).on m).1) waited a)] [0, 0, 0, 0] =
        [{ frames := [], active := base, held := [],
           failing := faultOf ((perform deeper keyword awaited limit waited a).on m).1 }]
  | _, .give _ => runSchedule_start_nil hself
  | _, .forget _ _ => runSchedule_start_nil hself
  | _, .fail message => runSchedule_start_fail hself _
  | _, .refuse k reason => runSchedule_start_fail hself _
  | waited, .runHere source => by
    rw [(perform_fails_as_handlerFault deeper keyword awaited limit waited source m).1]
    exact runSchedule_start_own hself keyword
  | waited, .runFresh source => by
    have hcalls := runSchedule_start_fresh hself hfresh hne keyword
      (faultOf ((runFresh deeper source).on m).1)
    -- the engine passes the inner run's failure on as the handler's, like the task
    rcases h : (runFresh deeper source).on m with ⟨_ | vs, m'⟩
    · rw [(perform_fails_as_handlerFault deeper keyword awaited limit waited source m).2 _ _ h]
      simpa [actionCalls, h, faultOf] using hcalls
    · have hok : ((perform deeper keyword awaited limit waited (.runFresh source)).on m).1 =
          .ok (.list vs) := by
        simp only [perform]
        rw [Run.on_bind, Run.on_attempt, h]
        rfl
      rw [hok]
      simpa [actionCalls, h, faultOf] using hcalls
  | waited, .wait seconds next => by
    have hnext := perform_simulated_by_task deeper keyword awaited limit m hself hfresh hne
      (waited + seconds) next
    rcases limit with _ | t
    · exact hnext
    · by_cases hout : (awaited && t ≤ waited + seconds) = true
      · simpa [actionCalls, perform, hout, faultOf] using runSchedule_start_fail hself _
      · simpa [actionCalls, perform, hout] using hnext

end Colonnade.Host
