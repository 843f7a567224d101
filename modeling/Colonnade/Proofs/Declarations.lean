import Colonnade.Proofs.Runs
/-! # What a run keeps in the global variables

Reading changes its scope through `dc` lines only (`Document.read_scope`), and nothing after reading
writes the variables again. So a staged error stops a run before any command
(`staged_error_halts_run`), and imports are isolated from the globals
(`imports_isolated_from_globals`).
-/
namespace Colonnade

/-- The names that reading reports missing in a content: those without a value in the scope, less
the parameter names when these are deferred. -/
def reportedMissing (defer : Bool) (scope : Ledger String) (content : String) : List String :=
  let sub := substitute scope.get? content
  if defer then sub.missing.filter (fun m => !isParameterName m) else sub.missing

/-- The scope after one kept line: a `dc` line with no missing name reported sets its identifier to
its content after substitution, and every other line leaves the scope alone. -/
def declare (defer : Bool) (scope : Ledger String) : Nat × Option Line → Ledger String
  | (_, some l) =>
    if Keyword.lookup? l.keyword = some .dc ∧ reportedMissing defer scope l.content = [] then
      scope.insert l.identifier (substitute scope.get? l.content).text
    else scope
  | (_, none) => scope

/-- The scope after the declarations of a source, read against `scope`. -/
def declarations (o : ReadOptions) (scope : Ledger String) (source : String) : Ledger String :=
  (readLines source).foldl (declare (defersParameters o (readLines source))) scope

namespace Reading

variable {o : ReadOptions} {st : Reading}

@[simp] theorem put_scope (key : String) (r : Record) : (st.put key r).scope = st.scope := rfl

@[simp] theorem stage_scope (key keyword : String) (n : Nat) (message : String)
    (kind : ErrorKind) : (st.stage key keyword n message kind).scope = st.scope := rfl

theorem readArray_scope (k : Keyword) (ident content : String) (n : Nat) :
    (st.readArray o k ident content n).scope = st.scope := by
  unfold readArray
  split
  · rfl
  · split <;> rfl
  · split <;> rfl
  · rfl

theorem readOther_scope (k : Option Keyword) (name ident content : String) (n : Nat)
    (occupied : Bool) :
    (st.readOther o k name ident content n occupied).scope =
      if k = some .dc then st.scope.insert ident content else st.scope := by
  unfold readOther
  split
  · rfl
  · rfl
  · rename_i hdc _
    rw [if_neg hdc]
    split
    · split <;> rfl
    · rfl

/-- A line with fields changes the scope only if it is a `dc` line with no missing name
reported. -/
theorem readLine_scope (defer : Bool) (l : Line) :
    (st.readLine o defer l).scope = declare defer st.scope (l.number, some l) := by
  unfold readLine declare
  dsimp only
  rw [show (if defer = true then (substitute st.scope.get? l.content).missing.filter
      (fun m => !isParameterName m) else (substitute st.scope.get? l.content).missing) =
    reportedMissing defer st.scope l.content from rfl]
  split
  · rename_i m rest hm
    simp [hm]
  · rename_i hm
    simp only [hm, and_true]
    split
    · rename_i hwl
      have hk : Keyword.lookup? l.keyword = some .wl := by
        simp only [Bool.and_eq_true, beq_iff_eq] at hwl
        exact hwl.2
      rw [hk]
      split <;> rfl
    · split
      · rename_i k hk
        split
        · rename_i harr
          rw [readArray_scope, hk, if_neg]
          intro hdc
          cases hdc
          simp [Keyword.category] at harr
        · rw [readOther_scope, hk]
      · rename_i hk
        rw [readOther_scope, hk]

theorem readEntry_scope (defer : Bool) (e : Nat × Option Line) :
    (st.readEntry o defer e).scope = declare defer st.scope e := by
  rcases e with ⟨n, _ | l⟩
  · rfl
  · exact readLine_scope defer l

/-- The run lemma: reading lines changes the scope as their declarations do. -/
theorem foldl_readEntry_scope (defer : Bool) (lines : List (Nat × Option Line)) (st : Reading) :
    (lines.foldl (readEntry o defer) st).scope = lines.foldl (declare defer) st.scope := by
  induction lines generalizing st with
  | nil => rfl
  | cons e rest ih => rw [List.foldl_cons, List.foldl_cons, ih, readEntry_scope]

end Reading

/-- Reading a source changes its scope through its declarations only. -/
theorem Document.read_scope (o : ReadOptions) (scope : Ledger String) (source : String) :
    (Document.read o scope source).scope = declarations o scope source :=
  Reading.foldl_readEntry_scope _ _ _

def Machine.withVariables (m : Machine) (vs : Ledger String) : Machine :=
  { m with context := { m.context with «variables» := vs } }

@[simp] theorem Machine.withVariables_self (m : Machine) :
    m.withVariables m.context.«variables» = m := rfl

@[simp] theorem Machine.withVariables_variables (m : Machine) (vs : Ledger String) :
    (m.withVariables vs).context.«variables» = vs := rfl

/-- A run at the top keeps the declarations of its reading as the context's variables. -/
theorem Frame.afterReading_top (m : Machine) (source : String) :
    ({} : Frame).afterReading m source =
      m.withVariables (declarations (m.context.readOptions false) m.context.«variables» source) := by
  exact congrArg m.withVariables
    (Document.read_scope (m.context.readOptions false) m.context.«variables» source)

/-! ## A staged error stops the run -/

/-- The first staged error of a document is its first error record in the order of identifiers. -/
theorem Document.errors_eq_cons {d : Document} {e : StagedError} {es : List StagedError}
    (h : d.errors = e :: es) :
    ∃ pre post, d.content.values = pre ++ .error e :: post ∧ ∀ r ∈ pre, r.error? = none := by
  obtain ⟨pre, r, post, hvals, hpre, hr, -⟩ := List.filterMap_eq_cons_iff.1 h
  have hre : r = .error e := by
    cases r <;> cases hr
    rfl
  exact ⟨pre, post, hre ▸ hvals, hpre⟩

/-- A document with an error record stops the run at the top on its first error in the order of
identifiers, with that error's message, before any command runs: the store, the registry and the
journal stay as they were, and the variables hold the declarations made while reading. -/
theorem staged_error_halts_run (m : Machine) (source : String) {e : StagedError}
    (he : Record.error e ∈ (({} : Frame).reading m.context source).doc.content.values) :
    ∃ first pre post,
      (({} : Frame).reading m.context source).doc.content.values = pre ++ .error first :: post ∧
      (∀ r ∈ pre, r.error? = none) ∧
      (execute source).on m = (.error (.staged first),
        m.withVariables (declarations (m.context.readOptions false) m.context.«variables» source)) ∧
      (Fault.staged first).message = "Execution error: " ++ first.message := by
  have hne : (({} : Frame).reading m.context source).doc.errors ≠ [] :=
    List.ne_nil_of_mem (List.mem_filterMap.2 ⟨_, he, rfl⟩)
  obtain ⟨first, rest, hfirst⟩ := List.exists_cons_of_ne_nil hne
  obtain ⟨pre, post, hvals, hpre⟩ := Document.errors_eq_cons hfirst
  refine ⟨first, pre, post, hvals, hpre, ?_, rfl⟩
  show (runWith (runWithin 319) source {}).on m = _
  rw [runWith_on_of_errors hfirst, Frame.afterReading_top]

/-- An unknown keyword stops the run before the import after it, with the declaration before it
kept. -/
theorem staged_error_halts_run_sample :
    Record.error ⟨"foo", 3, "Unknown keyword 'foo' (line:3)", .unknownKeyword⟩ ∈
        (({} : Frame).reading {} "x: DC: v\n1: WL: $x\n2: FOO: $x\n3: IM: lib").doc.content.values ∧
      ∃ first pre post,
        (({} : Frame).reading {} "x: DC: v\n1: WL: $x\n2: FOO: $x\n3: IM: lib").doc.content.values =
          pre ++ .error first :: post ∧
        (∀ r ∈ pre, r.error? = none) ∧
        (execute "x: DC: v\n1: WL: $x\n2: FOO: $x\n3: IM: lib").on { context := {} } =
          (.error (.staged first), Machine.withVariables { context := {} } (declarations
            (({} : Context).readOptions false) {} "x: DC: v\n1: WL: $x\n2: FOO: $x\n3: IM: lib")) ∧
        (Fault.staged first).message = "Execution error: " ++ first.message := by
  have he : Record.error ⟨"foo", 3, "Unknown keyword 'foo' (line:3)", .unknownKeyword⟩ ∈
      (({} : Frame).reading {} "x: DC: v\n1: WL: $x\n2: FOO: $x\n3: IM: lib").doc.content.values := by
    decide +kernel
  exact ⟨he, staged_error_halts_run { context := {} } _ he⟩

/-! ## Runs that ignore the global variables -/

namespace Run

variable {α β : Type}

/-- A computation that does the same whatever the context's variables hold, and leaves them as it
finds them. -/
def IgnoresVariables (x : Run α) : Prop :=
  ∀ m vs, x.on (m.withVariables vs) = ((x.on m).1, (x.on m).2.withVariables vs)

/-- A computation that ignores the variables keeps them. -/
theorem IgnoresVariables.variables_eq {x : Run α} (hx : IgnoresVariables x) (m : Machine) :
    (x.on m).2.context.«variables» = m.context.«variables» := by
  have h := congrArg (fun p => p.2.context.«variables») (hx m m.context.«variables»)
  simpa only [Machine.withVariables_self, Machine.withVariables_variables] using h

theorem ignoresVariables_pure (a : α) : IgnoresVariables (pure a : Run α) := fun _ _ => rfl

theorem ignoresVariables_throw (e : Fault) : IgnoresVariables (throw e : Run α) :=
  fun _ _ => rfl

theorem IgnoresVariables.bind {x : Run α} {g : α → Run β} (hx : IgnoresVariables x)
    (hg : ∀ a, IgnoresVariables (g a)) : IgnoresVariables (x >>= g) := by
  intro m vs
  rw [on_bind, on_bind, hx m vs]
  rcases x.on m with ⟨_ | a, m'⟩
  · rfl
  · exact hg a m' vs

theorem IgnoresVariables.map {x : Run α} (g : α → β) (hx : IgnoresVariables x) :
    IgnoresVariables (g <$> x) := by
  rw [map_eq_pure_bind]
  exact hx.bind fun a => ignoresVariables_pure (g a)

theorem IgnoresVariables.attempt {x : Run α} (hx : IgnoresVariables x) :
    IgnoresVariables (attempt x) := by
  intro m vs
  rw [on_attempt, on_attempt, hx m vs]

theorem ignoresVariables_context_bind {g : Context → Run α}
    (hg : ∀ c, IgnoresVariables (g c))
    (hread : ∀ c vs, g { c with «variables» := vs } = g c) :
    IgnoresVariables (Run.context >>= g) := by
  intro m vs
  rw [on_context_bind, on_context_bind]
  show (g { m.context with «variables» := vs }).on _ = _
  rw [hread]
  exact hg m.context m vs

theorem ignoresVariables_modifyContext_bind {f : Context → Context} {g : PUnit → Run α}
    (hf : ∀ c vs, f { c with «variables» := vs } = { f c with «variables» := vs })
    (hg : IgnoresVariables (g ())) : IgnoresVariables (Run.modifyContext f >>= g) := by
  intro m vs
  rw [on_modifyContext_bind, on_modifyContext_bind]
  show (g ()).on { m with context := f { m.context with «variables» := vs } } = _
  rw [hf]
  exact hg { m with context := f m.context } vs

theorem ignoresVariables_get_bind {g : Machine → Run α} (hg : ∀ m, IgnoresVariables (g m))
    (hread : ∀ m vs, g (m.withVariables vs) = g m) : IgnoresVariables (get >>= g) := by
  intro m vs
  rw [on_get_bind, on_get_bind, hread]
  exact hg m m vs

theorem ignoresVariables_modify_bind {f : Machine → Machine} {g : PUnit → Run α}
    (hf : ∀ m vs, f (m.withVariables vs) = (f m).withVariables vs)
    (hg : IgnoresVariables (g ())) : IgnoresVariables (modify f >>= g) := by
  intro m vs
  rw [on_modify_bind, on_modify_bind, hf]
  exact hg (f m) vs

end Run

open Run

/-- A run on a new context ignores the variables of the context it puts back. -/
theorem ignoresVariables_runFresh (deeper : Runner) (source : String) :
    IgnoresVariables (runFresh deeper source) := by
  intro m vs
  rw [runFresh_on, runFresh_on]
  rfl

/-- A handler's action ignores the variables, whatever runs deeper: it runs a source only on a new
context. -/
theorem perform_ignoresVariables (deeper : Runner) (keyword : String) (awaited : Bool)
    (limit : Option Float) (waited : Float) (a : Action) :
    IgnoresVariables (perform deeper keyword awaited limit waited a) := by
  induction a generalizing waited with
  | give v => exact ignoresVariables_pure v
  | fail message => exact ignoresVariables_throw _
  | refuse k reason => exact ignoresVariables_throw _
  | forget k v =>
    exact ignoresVariables_modifyContext_bind (fun _ _ => rfl) (ignoresVariables_pure v)
  | runHere _ => exact ignoresVariables_throw _
  | runFresh source =>
    refine (ignoresVariables_runFresh deeper source).attempt.bind fun r => ?_
    rcases r with e | vs
    · cases e <;> exact ignoresVariables_throw _
    · exact ignoresVariables_pure _
  | wait seconds next ih =>
    simp only [perform]
    split
    · split
      · exact ignoresVariables_throw _
      · exact ih _
    · exact ih _

theorem callHandler_ignoresVariables (deeper : Runner) (keyword : String) (line : Int)
    (content : String) : IgnoresVariables (callHandler deeper keyword line content) := by
  unfold callHandler
  refine ignoresVariables_context_bind (fun c => ?_) (fun _ _ => rfl)
  split
  · exact ignoresVariables_throw _
  · rename_i h _
    -- the call is noted in the journal when the handler has a label, then the action runs
    have hact : IgnoresVariables (get >>= fun m : Machine =>
        perform deeper keyword h.awaited c.settings.handlerTimeout 0
          (h.act content m.journal.length)) :=
      ignoresVariables_get_bind (fun _ => perform_ignoresVariables _ _ _ _ _ _) (fun _ _ => rfl)
    split
    · exact ignoresVariables_modify_bind (fun _ _ => rfl) hact
    · exact hact

theorem exportDocument_ignoresVariables (doc : Document) (source content : String) :
    IgnoresVariables (exportDocument doc source content) := by
  unfold exportDocument
  split
  · exact ignoresVariables_pure _
  · refine ignoresVariables_context_bind (fun c => ?_) (fun _ _ => rfl)
    split
    · exact ignoresVariables_throw _
    · exact ignoresVariables_modifyContext_bind (fun _ _ => rfl) (ignoresVariables_pure _)

/-- An import ignores the variables when the runs it starts with parameters do. -/
theorem importExport_ignoresVariables {deeper : Runner} (content : String) (stack : List String)
    (hdeeper : ∀ source ps st,
      IgnoresVariables (deeper source { parameters := some ps, stack := st })) :
    IgnoresVariables (importExport deeper content stack) := by
  unfold importExport
  refine ignoresVariables_context_bind (fun c => ?_) (fun _ _ => rfl)
  split
  · split
    · exact ignoresVariables_pure _
    · exact ignoresVariables_throw _
  · split
    · exact ignoresVariables_throw _
    · exact hdeeper _ _ _

theorem walk_ignoresVariables {deeper : Runner} {doc : Document} {source : String}
    {stack : List String} (himport : ∀ content, IgnoresVariables (importExport deeper content stack)) :
    ∀ (records : List Record) (acc : List Value),
      IgnoresVariables (walk deeper doc source stack records acc)
  | [], _ => ignoresVariables_pure _
  | .text _ _ _ :: rest, _ => walk_ignoresVariables himport rest _
  | .array _ _ _ :: rest, _ => walk_ignoresVariables himport rest _
  | .error _ :: rest, _ => walk_ignoresVariables himport rest _
  | .command kw line content :: rest, acc => by
    have hrest : ∀ acc, IgnoresVariables (walk deeper doc source stack rest acc) :=
      walk_ignoresVariables himport rest
    simp only [walk]
    split
    · exact (himport content).bind fun _ => hrest _
    · split
      · exact (exportDocument_ignoresVariables doc source content).bind fun _ =>
          ignoresVariables_pure _
      · exact (callHandler_ignoresVariables deeper kw line content).bind fun _ => hrest _

/-- A run with parameters reads its source in their scope and writes no variable of the context. -/
theorem runWith_params_ignoresVariables {deeper : Runner} {source : String} (ps : Ledger String)
    (stack : List String) (himport : ∀ content, IgnoresVariables (importExport deeper content stack)) :
    IgnoresVariables (runWith deeper source { parameters := some ps, stack := stack }) := by
  intro m vs
  rw [runWith_on, runWith_on]
  have hread : Frame.reading { parameters := some ps, stack := stack } (m.withVariables vs).context
      source = Frame.reading { parameters := some ps, stack := stack } m.context source := rfl
  have hafter : ∀ m', Frame.afterReading { parameters := some ps, stack := stack } m' source = m' :=
    fun _ => rfl
  rw [hread, hafter, hafter]
  split
  · rfl
  · exact ((walk_ignoresVariables himport _ _).map _) m vs

/-- Every run with parameters ignores the variables, at every budget: the induction is on the
budget, each import going one level deeper. -/
theorem runWithin_params_ignoresVariables :
    ∀ (n : Nat) (source : String) (ps : Ledger String) (stack : List String),
      IgnoresVariables (runWithin n source { parameters := some ps, stack := stack })
  | 0, _, _, _ => ignoresVariables_throw _
  | n + 1, _, ps, stack => runWith_params_ignoresVariables ps stack fun content =>
      importExport_ignoresVariables content stack (runWithin_params_ignoresVariables n)

/-- After a run at the top, returning or not, the variables hold the declarations of its source
over the variables it started with. -/
theorem execute_variables (m : Machine) (source : String) :
    ((execute source).on m).2.context.«variables» =
      declarations (m.context.readOptions false) m.context.«variables» source := by
  have himport : ∀ content, IgnoresVariables (importExport (runWithin 319) content []) :=
    fun content => importExport_ignoresVariables content [] (runWithin_params_ignoresVariables 319)
  show ((runWith (runWithin 319) source {}).on m).2.context.«variables» = _
  rw [runWith_on]
  split
  · rw [Frame.afterReading_top]
    rfl
  · rw [((walk_ignoresVariables himport _ _).map _).variables_eq, Frame.afterReading_top]
    rfl

/-- Imports are isolated from the global variables: a run at the top leaves in them exactly the
declarations of its own source, and an import, at any depth, gives the same results and effects
whatever they hold, and keeps them. -/
theorem imports_isolated_from_globals :
    (∀ (m : Machine) (source : String),
      ((execute source).on m).2.context.«variables» =
        declarations (m.context.readOptions false) m.context.«variables» source) ∧
    ∀ (n : Nat) (content : String) (stack : List String) (m : Machine) (vs : Ledger String),
      (importExport (runWithin n) content stack).on (m.withVariables vs) =
        (((importExport (runWithin n) content stack).on m).1,
          ((importExport (runWithin n) content stack).on m).2.withVariables vs) ∧
      ((importExport (runWithin n) content stack).on m).2.context.«variables» =
        m.context.«variables» := by
  refine ⟨execute_variables, fun n content stack m vs => ?_⟩
  have himport := importExport_ignoresVariables content stack (runWithin_params_ignoresVariables n)
  exact ⟨himport m vs, himport.variables_eq m⟩

end Colonnade
