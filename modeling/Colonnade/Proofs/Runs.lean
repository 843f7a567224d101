import Colonnade.Engine
/-! # Runs step by step

What each building block of the run monad does to a machine, so that later proofs follow a run
through its binds without unfolding the monad; `runWith_on` says once how a run reads its source
and then stops on a staged error or walks the records.
-/
namespace Colonnade

namespace Run

variable {α β : Type}

@[simp] theorem on_pure (a : α) (m : Machine) : (pure a : Run α).on m = (.ok a, m) := rfl

@[simp] theorem on_throw (e : Fault) (m : Machine) : (throw e : Run α).on m = (.error e, m) := rfl

theorem on_bind (x : Run α) (g : α → Run β) (m : Machine) :
    (x >>= g).on m = match x.on m with
      | (.ok a, m') => (g a).on m'
      | (.error e, m') => (.error e, m') := by
  simp only [Run.on, ExceptT.run_bind, StateT.run_bind]
  rcases x.run.run m with ⟨_ | _, _⟩ <;> rfl

theorem on_bind_of_ok {x : Run α} {m m' : Machine} {a : α} (h : x.on m = (.ok a, m'))
    (g : α → Run β) : (x >>= g).on m = (g a).on m' := by
  rw [on_bind, h]

theorem on_bind_of_error {x : Run α} {m m' : Machine} {e : Fault} (h : x.on m = (.error e, m'))
    (g : α → Run β) : (x >>= g).on m = (.error e, m') := by
  rw [on_bind, h]

theorem on_map (g : α → β) (x : Run α) (m : Machine) :
    (g <$> x).on m = match x.on m with
      | (.ok a, m') => (.ok (g a), m')
      | (.error e, m') => (.error e, m') := by
  simp only [Run.on, ExceptT.run_map, StateT.run_map]
  rcases x.run.run m with ⟨_ | _, _⟩ <;> rfl

theorem on_map_of_ok {x : Run α} {m m' : Machine} {a : α} (h : x.on m = (.ok a, m'))
    (g : α → β) : (g <$> x).on m = (.ok (g a), m') := by
  rw [on_map, h]

theorem on_map_of_error {x : Run α} {m m' : Machine} {e : Fault} (h : x.on m = (.error e, m'))
    (g : α → β) : (g <$> x).on m = (.error e, m') := by
  rw [on_map, h]

/-- A fault of a computation is the fault of what is bound after it, whatever the machine. -/
theorem on_bind_fst_of_error {x : Run α} {m : Machine} {e : Fault} (h : (x.on m).1 = .error e)
    (g : α → Run β) : ((x >>= g).on m).1 = .error e := by
  rw [on_bind]
  rcases hx : x.on m with ⟨_ | a, m'⟩ <;> rw [hx] at h <;> cases h
  rfl

theorem on_map_fst_of_error {x : Run α} {m : Machine} {e : Fault} (h : (x.on m).1 = .error e)
    (g : α → β) : ((g <$> x).on m).1 = .error e := by
  rw [on_map]
  rcases hx : x.on m with ⟨_ | a, m'⟩ <;> rw [hx] at h <;> cases h
  rfl

@[simp] theorem on_context_bind (g : Context → Run α) (m : Machine) :
    (Run.context >>= g).on m = (g m.context).on m := by
  rw [on_bind]
  rfl

@[simp] theorem on_modifyContext_bind (f : Context → Context) (g : PUnit → Run α)
    (m : Machine) :
    (Run.modifyContext f >>= g).on m = (g ()).on { m with context := f m.context } := by
  rw [on_bind]
  rfl

@[simp] theorem on_get_bind (g : Machine → Run α) (m : Machine) :
    (get >>= g).on m = (g m).on m := by
  rw [on_bind]
  rfl

@[simp] theorem on_modify_bind (f : Machine → Machine) (g : PUnit → Run α) (m : Machine) :
    (modify f >>= g).on m = (g ()).on (f m) := by
  rw [on_bind]
  rfl

/-- An attempt never fails: the fault, if any, becomes its result. -/
theorem on_attempt (x : Run α) (m : Machine) :
    (attempt x).on m = (.ok (x.on m).1, (x.on m).2) := by
  simp only [attempt, Run.on, ExceptT.run_tryCatch, ExceptT.map, ExceptT.run_mk,
    StateT.run_bind]
  simp only [ExceptT.run]
  rcases StateT.run x m with ⟨_ | _, _⟩ <;> rfl

end Run

/-- A run on a new context puts the machine's context back whatever its outcome: only the journal
keeps what the run did. -/
theorem runFresh_on (deeper : Runner) (source : String) (m : Machine) :
    (runFresh deeper source).on m =
      (((deeper source {}).on { m with context := {} }).1,
        { ((deeper source {}).on { m with context := {} }).2 with context := m.context }) := by
  simp only [runFresh, Run.on_context_bind, Run.on_modifyContext_bind]
  rw [Run.on_bind, Run.on_attempt]
  simp only [Run.on_modifyContext_bind]
  rcases (deeper source {}).on { m with context := {} } with ⟨_ | _, _⟩ <;> rfl

/-- An import whose arguments read as a stored name, not on the stack, and further arguments runs
the stored source with those arguments as its parameters. -/
theorem importExport_on_args {deeper : Runner} {content name : String} {rest stack : List String}
    {m : Machine} {f : ExportedFile} (hargs : importArguments content = name :: rest)
    (hf : m.context.files.get? name = some f) (hs : name ∉ stack) :
    (importExport deeper content stack).on m =
      (deeper f.source
        { parameters := some (importParameters rest), stack := stack ++ [name] }).on m := by
  simp only [importExport, Run.on_context_bind, hargs, List.headD_cons, hf, if_neg hs]
  rfl

/-- An export by default under a name that is free stores the document, with the source
stripped of its default exports, and gives the document's values. -/
theorem exportDocument_on_free {doc : Document} {source : String} {m : Machine}
    (hname : doc.name ≠ "") (hfree : m.context.files.get? doc.name = none) :
    (exportDocument doc source exportDefault).on m =
      (.ok doc.values, { m with context := { m.context with files :=
        ⟨m.context.files.files.insert doc.name
          ⟨doc.name, doc.content, stripDefaultExports source⟩⟩ } }) := by
  have hfree' : m.context.files.files.contains doc.name = false := by
    have hget : m.context.files.files.get? doc.name = none := hfree
    simp [Ledger.contains, hget]
  simp only [exportDocument, bne_self_eq_false, Bool.false_eq_true, if_false,
    String.isEmpty_iff, hname, Run.on_context_bind, Store.exportAs, hfree']
  rfl

/-- A walk that meets an import runs it and goes on with the values it gave. -/
theorem walk_import (deeper : Runner) (doc : Document) (source : String) (stack : List String)
    (line : Int) (content : String) (rest : List Record) (acc : List Value) :
    walk deeper doc source stack (.command "im" line content :: rest) acc =
      importExport deeper content stack >>= fun vs =>
        walk deeper doc source stack rest (acc ++ vs) := by
  simp [walk]

theorem walk_import_of_ok {deeper : Runner} {doc : Document} {source : String}
    {stack : List String} {line : Int} {content : String} {rest : List Record} {acc vs : List Value}
    {m m' : Machine} (h : (importExport deeper content stack).on m = (.ok vs, m')) :
    (walk deeper doc source stack (.command "im" line content :: rest) acc).on m =
      (walk deeper doc source stack rest (acc ++ vs)).on m' := by
  rw [walk_import, Run.on_bind_of_ok h]

theorem walk_import_of_error {deeper : Runner} {doc : Document} {source : String}
    {stack : List String} {line : Int} {content : String} {rest : List Record} {acc : List Value}
    {m m' : Machine} {e : Fault} (h : (importExport deeper content stack).on m = (.error e, m')) :
    (walk deeper doc source stack (.command "im" line content :: rest) acc).on m =
      (.error e, m') := by
  rw [walk_import, Run.on_bind_of_error h]

theorem walk_export (deeper : Runner) (doc : Document) (source : String) (stack : List String)
    (line : Int) (content : String) (rest : List Record) (acc : List Value) :
    walk deeper doc source stack (.command "ex" line content :: rest) acc =
      Walk.exported <$> exportDocument doc source content := by
  simp [walk]

/-- The values a walk ended with, at the last record or at an export. -/
def Walk.values : Walk → List Value
  | .finished vs | .exported vs => vs

/-- The reading that opens a run of a source in a frame, against a context. -/
def Frame.reading (f : Frame) (c : Context) (source : String) : Reading :=
  Document.read (c.readOptions f.parameters.isSome) (f.parameters.getD c.«variables») source

/-- The machine once a run of a source in a frame has read it: a run at the top keeps the
declarations of its reading in the context's variables, a run in an import's scope keeps none. -/
def Frame.afterReading (f : Frame) (m : Machine) (source : String) : Machine :=
  if f.parameters.isNone then
    { m with context := { m.context with «variables» := (f.reading m.context source).scope } }
  else m

/-- Reading changes the variables of the context at most. -/
theorem Frame.afterReading_context (f : Frame) (m : Machine) (source : String) :
    (f.afterReading m source).context =
      { m.context with «variables» := (f.afterReading m source).context.«variables» } := by
  unfold Frame.afterReading
  split <;> rfl

/-- A run reads its source, stops on the first staged error of the document, and otherwise walks
the records from the machine it left after reading. -/
theorem runWith_on (deeper : Runner) (source : String) (f : Frame) (m : Machine) :
    (runWith deeper source f).on m =
      match (f.reading m.context source).doc.errors with
      | e :: _ => (.error (.staged e), f.afterReading m source)
      | [] => (Walk.values <$> walk deeper (f.reading m.context source).doc source f.stack
          (f.reading m.context source).doc.content.values []).on (f.afterReading m source) := by
  simp only [runWith, Run.on_context_bind, Frame.afterReading, Frame.reading]
  generalize Document.read (m.context.readOptions f.parameters.isSome)
    (f.parameters.getD m.context.«variables») source = rd
  cases f.parameters <;>
  simp only [Option.isNone_none, Option.isNone_some, Bool.false_eq_true, if_true, if_false,
    Run.on_modifyContext_bind] <;>
  cases rd.doc.errors <;> simp only [Run.on_throw, Run.on_bind, Run.on_map]
  all_goals
    generalize (walk deeper rd.doc source f.stack rd.doc.content.values []).on _ = r
    rcases r with ⟨_ | (_ | _), _⟩ <;> rfl

theorem runWith_on_of_errors {deeper : Runner} {source : String} {f : Frame} {m : Machine}
    {e : StagedError} {es : List StagedError}
    (h : (f.reading m.context source).doc.errors = e :: es) :
    (runWith deeper source f).on m = (.error (.staged e), f.afterReading m source) := by
  rw [runWith_on, h]

/-- A run in an import's scope whose reading staged no error walks the document from the machine
as it was: the declarations of the reading stay in the import's scope. -/
theorem runWith_on_params {deeper : Runner} {source : String} {ps : Ledger String}
    {stack : List String} {m : Machine} {doc : Document} {scope : Ledger String}
    (hread : Document.read (m.context.readOptions true) ps source = ⟨doc, scope⟩)
    (herr : doc.errors = []) :
    (runWith deeper source { parameters := some ps, stack := stack }).on m =
      (Walk.values <$> walk deeper doc source stack doc.content.values []).on m := by
  have hreading : Frame.reading { parameters := some ps, stack := stack } m.context source =
      ⟨doc, scope⟩ := hread
  rw [runWith_on, hreading]
  simp only [herr]
  rfl

end Colonnade
