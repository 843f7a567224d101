import Colonnade.Proofs.Runs
/-! # Imports that do not export

A stored source has lost the lines that export by default as written; a run judges an export after
substitution, and the two agree on an export line that names no variable. So an import of such a
store adds no file (`import_adds_no_file`), and an export line naming a variable exports again
(`reimport_exports_again`).
-/
namespace Colonnade

/-! ## Substitution without variables -/

theorem substituteChars_of_no_dollar (lookup : String → Option String) :
    ∀ {cs : List Char}, '$' ∉ cs → substituteChars lookup cs = (cs, [])
  | [], _ => by rw [substituteChars]
  | c :: rest, h => by
    have hc : c ≠ '$' := fun e => h (e ▸ List.mem_cons_self)
    have hrest : '$' ∉ rest := fun e => h (List.mem_cons_of_mem _ e)
    rw [substituteChars, if_neg hc]
    simp only [substituteChars_of_no_dollar lookup hrest]

/-- A text that names no variable is left as written, whatever the variables hold. -/
theorem substitute_of_no_dollar (lookup : String → Option String) {s : String}
    (h : '$' ∉ s.toList) : substitute lookup s = ⟨s, []⟩ := by
  simp [substitute, substituteChars_of_no_dollar lookup h]

/-! ## Stripped sources -/

theorem not_mem_of_mem_splitOn {c : Char} :
    ∀ {xs p : List Char}, p ∈ xs.splitOn c → c ∉ p
  | [], p, h => by
    rw [List.splitOn_nil, List.mem_singleton] at h
    simp [h]
  | x :: xs, p, h => by
    rw [List.splitOn_cons_eq_if_modifyHead] at h
    split at h
    · rcases List.mem_cons.1 h with rfl | h
      · simp
      · exact not_mem_of_mem_splitOn h
    · rename_i hx
      obtain ⟨q, qs, hq⟩ := List.exists_cons_of_ne_nil (List.splitOn_ne_nil c xs)
      rw [hq, List.modifyHead_cons, List.mem_cons] at h
      rcases h with rfl | h
      · have hq' : c ∉ q := not_mem_of_mem_splitOn (hq ▸ List.mem_cons_self)
        simp only [List.mem_cons, not_or]
        exact ⟨fun e => hx (by simp [e]), hq'⟩
      · exact not_mem_of_mem_splitOn (hq ▸ List.mem_cons_of_mem q h)

/-- The fields of a line do not depend on its number. -/
theorem Line.parse?_renumber (n n' : Nat) (t : String) :
    Line.parse? n t = (Line.parse? n' t).map fun l => { l with number := n } := by
  unfold Line.parse?
  cases Line.fields t.toList <;> rfl

/-- A kept line `(n, t)` of a source comes from the piece numbered `n` between its line breaks. -/
theorem mem_numberedLines {s t : String} {n : Nat} :
    (n, t) ∈ numberedLines s ↔ ∃ piece, (piece, n) ∈ (s.toList.splitOn '\n').zipIdx 1 ∧
      3 ≤ (Text.dropBlanksEnd (Text.dropBlanks piece)).length ∧
      String.ofList (Text.dropBlanksEnd (Text.dropBlanks piece)) = t := by
  unfold numberedLines
  simp only [List.mem_filterMap, Prod.exists]
  constructor
  · rintro ⟨piece, k, hmem, hkeep⟩
    split at hkeep
    · cases hkeep
      exact ⟨piece, hmem, ‹_›, rfl⟩
    · cases hkeep
  · rintro ⟨piece, hmem, hlen, rfl⟩
    exact ⟨piece, n, hmem, by simp [hlen]⟩

/-- A line of the stripped source is a line of the source, numbered anew, that does not export
by default. -/
theorem mem_numberedLines_strip {source t : String} {n' : Nat}
    (h : (n', t) ∈ numberedLines (stripDefaultExports source)) :
    ∃ n, (n, t) ∈ numberedLines source ∧
      ∀ l ∈ Line.parse? n t, l.isDefaultExport = false := by
  -- the numbers of the lines that export by default
  let skip := (readLines source).filterMap fun e =>
    if e.2.any Line.isDefaultExport then some e.1 else none
  have hskip : ∀ n, (n, t) ∈ numberedLines source → n ∉ skip →
      ∀ l ∈ Line.parse? n t, l.isDefaultExport = false := by
    intro n hn hns l hl
    cases hd : l.isDefaultExport
    · rfl
    · refine absurd (List.mem_filterMap.2 ⟨(n, Line.parse? n t), ?_, ?_⟩) hns
      · exact List.mem_map.2 ⟨(n, t), hn, rfl⟩
      · simp [Option.mem_def.1 hl, hd]
  -- the pieces of the source between its line breaks that stripping keeps
  let kept := ((source.toList.splitOn '\n').zipIdx 1).filterMap fun e =>
    if e.2 ∈ skip then none else some e.1
  have hstrip : stripDefaultExports source =
      if skip.isEmpty then source else String.ofList (['\n'].intercalate kept) := by
    unfold stripDefaultExports
    rfl
  rw [hstrip] at h
  split at h
  · -- nothing exports by default: the source is kept whole
    rename_i hempty
    refine ⟨n', h, hskip n' h ?_⟩
    simp [List.isEmpty_iff.1 hempty]
  · obtain ⟨piece, hmem, hlen, rfl⟩ := mem_numberedLines.1 h
    rw [String.toList_ofList] at hmem
    -- the stripped source splits back into the pieces that were kept
    have hkept : piece ∈ kept := by
      by_cases hnil : kept = []
      · rw [hnil] at hmem
        simp only [List.intercalate_nil, List.splitOn_nil, List.zipIdx_singleton,
          List.mem_singleton, Prod.mk.injEq] at hmem
        rw [hmem.1] at hlen
        simp [Text.dropBlanks, Text.dropBlanksEnd] at hlen
      · have hsep : ∀ p ∈ kept, '\n' ∉ p := by
          intro p hp
          obtain ⟨⟨raw, n⟩, hraw, hp⟩ := List.mem_filterMap.1 hp
          simp only [Option.ite_none_left_eq_some, Option.some.injEq] at hp
          obtain ⟨-, rfl⟩ := hp
          exact not_mem_of_mem_splitOn (List.fst_mem_of_mem_zipIdx hraw)
        rw [List.splitOn_intercalate '\n' hsep hnil] at hmem
        exact List.fst_mem_of_mem_zipIdx hmem
    obtain ⟨⟨raw, n⟩, hraw, hp⟩ := List.mem_filterMap.1 hkept
    simp only [Option.ite_none_left_eq_some, Option.some.injEq] at hp
    obtain ⟨hn, rfl⟩ := hp
    have hline : (n, String.ofList (Text.dropBlanksEnd (Text.dropBlanks raw))) ∈
        numberedLines source := mem_numberedLines.2 ⟨raw, hraw, hlen, rfl⟩
    exact ⟨n, hline, hskip n hline hn⟩

/-! ## Plain export lines -/

/-- An export line is plain when its content is not `default` and names no variable: reading
leaves such a content as written, so the line never exports by default. -/
def Line.ExportsPlainly (l : Line) : Prop :=
  l.keyword = "ex" → l.content ≠ exportDefault ∧ '$' ∉ l.content.toList

def ExportsPlainly (source : String) : Prop :=
  ∀ e ∈ readLines source, ∀ l ∈ e.2, l.ExportsPlainly

instance (l : Line) : Decidable l.ExportsPlainly :=
  inferInstanceAs (Decidable (_ → _ ∧ _))

instance (source : String) : Decidable (ExportsPlainly source) :=
  inferInstanceAs (Decidable (∀ e ∈ readLines source, ∀ l ∈ e.2, l.ExportsPlainly))

/-- Whether a record is an export by default: a run that reaches it stores its document. -/
def Record.exportsByDefault : Record → Bool
  | .command kw _ content => kw == "ex" && content == exportDefault
  | _ => false

/-- A stripped source has only plain export lines when the export lines of the source name no
variable. -/
theorem exportsPlainly_strip {source : String}
    (h : ∀ e ∈ readLines source, ∀ l ∈ e.2, l.keyword = "ex" → '$' ∉ l.content.toList) :
    ExportsPlainly (stripDefaultExports source) := by
  intro e he l hl hkw
  obtain ⟨⟨n', t⟩, ht, rfl⟩ := List.mem_map.1 he
  obtain ⟨n, hn, hplain⟩ := mem_numberedLines_strip ht
  -- the same line under its number in the source
  let l' : Line := { l with number := n }
  have hl' : l' ∈ Line.parse? n t := by
    rw [Line.parse?_renumber n n' t]
    exact Option.mem_map_of_mem _ hl
  have hdollar := h (n, Line.parse? n t) (List.mem_map.2 ⟨(n, t), hn, rfl⟩) l' hl' hkw
  refine ⟨fun hc => ?_, hdollar⟩
  have := hplain l' hl'
  simp [Line.isDefaultExport, l', hkw, hc] at this

namespace Reading

def NoDefaultExport (st : Reading) : Prop :=
  ∀ r ∈ st.doc.content.values, r.exportsByDefault = false

variable {o : ReadOptions} {st : Reading}

theorem NoDefaultExport.put (h : st.NoDefaultExport) {key : String} {r : Record}
    (hr : r.exportsByDefault = false) : (st.put key r).NoDefaultExport := by
  intro r' hr'
  rcases Ledger.mem_values_insert hr' with rfl | hr'
  · exact hr
  · exact h r' hr'

theorem NoDefaultExport.stage (h : st.NoDefaultExport) (key keyword : String) (n : Nat)
    (message : String) (kind : ErrorKind) :
    (st.stage key keyword n message kind).NoDefaultExport :=
  h.put rfl

theorem NoDefaultExport.readArray (h : st.NoDefaultExport) (k : Keyword)
    (ident content : String) (n : Nat) : (st.readArray o k ident content n).NoDefaultExport := by
  unfold Reading.readArray
  split
  · exact h.put rfl
  · split
    · exact h.put rfl
    · exact h.stage _ _ _ _ _
  · split
    · exact h.stage _ _ _ _ _
    · exact h
  · exact h

/-- Of the lines that are not value or array lines, only a command writes a record that a run
acts on: an export line exports by default only if its content, as it stands, is `default`. -/
theorem NoDefaultExport.readOther (h : st.NoDefaultExport) (k : Option Keyword)
    (name ident content : String) (n : Nat) (occupied : Bool)
    (hcontent : name = "ex" → content ≠ exportDefault) :
    (st.readOther o k name ident content n occupied).NoDefaultExport := by
  unfold Reading.readOther
  split
  · exact h
  · exact h
  · split
    · split
      · exact h.stage _ _ _ _ _
      · refine h.put ?_
        by_cases hname : name = "ex"
        · simp [Record.exportsByDefault, hname, hcontent hname]
        · simp [Record.exportsByDefault, hname]
    · exact h.stage _ _ _ _ _

theorem NoDefaultExport.readLine (h : st.NoDefaultExport) (defer : Bool) {l : Line}
    (hl : l.ExportsPlainly) : (st.readLine o defer l).NoDefaultExport := by
  -- a plain export line reads as written, whatever the scope
  have hcontent : l.keyword = "ex" →
      (substitute st.scope.get? l.content).text ≠ exportDefault := by
    intro hkw
    obtain ⟨hne, hdollar⟩ := hl hkw
    rw [substitute_of_no_dollar _ hdollar]
    exact hne
  unfold Reading.readLine
  dsimp only
  split
  · exact h.stage _ _ _ _ _
  · split
    · split
      · exact h.put rfl
      · exact h.stage _ _ _ _ _
    · split
      · split
        · exact h.readArray _ _ _ _
        · exact h.readOther _ _ _ _ _ _ hcontent
      · exact h.readOther _ _ _ _ _ _ hcontent

theorem NoDefaultExport.foldl_readEntry (defer : Bool) :
    ∀ {lines : List (Nat × Option Line)} {st : Reading}, st.NoDefaultExport →
      (∀ e ∈ lines, ∀ l ∈ e.2, l.ExportsPlainly) →
      (lines.foldl (readEntry o defer) st).NoDefaultExport
  | [], _, h, _ => h
  | entry :: rest, st, h, hlines => by
    have hrest : ∀ e ∈ rest, ∀ l ∈ e.2, l.ExportsPlainly :=
      fun e he => hlines e (List.mem_cons_of_mem _ he)
    have hstep : (st.readEntry o defer entry).NoDefaultExport := by
      rcases entry with ⟨n, _ | l⟩
      · exact h.stage _ _ _ _ _
      · exact h.readLine defer (hlines _ List.mem_cons_self l rfl)
    rw [List.foldl_cons]
    exact foldl_readEntry defer hstep hrest

/-- A source whose export lines are plain reads, against any scope, into a document with no
export by default. -/
theorem read_noDefaultExport (o : ReadOptions) (scope : Ledger String) {source : String}
    (hs : ExportsPlainly source) : (Document.read o scope source).NoDefaultExport :=
  NoDefaultExport.foldl_readEntry _ (fun _ h => by cases h) hs

end Reading

/-! ## Runs that keep the store -/

namespace Run

variable {α β : Type}

/-- A computation that leaves the store `s` as it finds it and never refuses an export as
taken. -/
def KeepsStore (s : Store) (x : Run α) : Prop :=
  ∀ m : Machine, m.context.files = s →
    (x.on m).2.context.files = s ∧ ∀ name, (x.on m).1 ≠ .error (.duplicateExport name)

variable {s : Store}

theorem keepsStore_pure (a : α) : KeepsStore s (pure a) := by
  intro m hm
  simp [hm]

theorem keepsStore_throw {e : Fault} (he : ∀ name, e ≠ .duplicateExport name) :
    KeepsStore s (throw e : Run α) := by
  intro m hm
  simp only [on_throw, hm, true_and]
  intro name h
  exact he name (Except.error.inj h)

theorem KeepsStore.bind {x : Run α} {g : α → Run β} (hx : KeepsStore s x)
    (hg : ∀ a, KeepsStore s (g a)) : KeepsStore s (x >>= g) := by
  intro m hm
  obtain ⟨hfiles, hres⟩ := hx m hm
  rcases hxm : x.on m with ⟨_ | a, m'⟩
  · rw [hxm] at hfiles hres
    rw [on_bind_of_error hxm]
    refine ⟨hfiles, fun name h => hres name ?_⟩
    rw [Except.error.inj h]
  · rw [hxm] at hfiles
    rw [on_bind_of_ok hxm]
    exact hg a m' hfiles

theorem KeepsStore.map {x : Run α} (g : α → β) (hx : KeepsStore s x) :
    KeepsStore s (g <$> x) := by
  rw [map_eq_pure_bind]
  exact hx.bind fun a => keepsStore_pure (g a)

theorem keepsStore_context_bind {g : Context → Run α}
    (hg : ∀ c, c.files = s → KeepsStore s (g c)) : KeepsStore s (Run.context >>= g) := by
  intro m hm
  rw [on_context_bind]
  exact hg m.context hm m hm

theorem keepsStore_modifyContext_bind {f : Context → Context} {g : PUnit → Run α}
    (hf : ∀ c, (f c).files = c.files) (hg : KeepsStore s (g ())) :
    KeepsStore s (Run.modifyContext f >>= g) := by
  intro m hm
  rw [on_modifyContext_bind]
  exact hg _ ((hf m.context).trans hm)

theorem keepsStore_get_bind {g : Machine → Run α}
    (hg : ∀ m : Machine, m.context.files = s → KeepsStore s (g m)) :
    KeepsStore s (get >>= g) := by
  intro m hm
  rw [on_get_bind]
  exact hg m hm m hm

theorem keepsStore_modify_bind {f : Machine → Machine} {g : PUnit → Run α}
    (hf : ∀ m, (f m).context = m.context) (hg : KeepsStore s (g ())) :
    KeepsStore s (modify f >>= g) := by
  intro m hm
  rw [on_modify_bind]
  exact hg _ ((congrArg Context.files (hf m)).trans hm)

end Run

open Run

variable {s : Store}

/-- A run on a new context hands the store back as it found it, whatever the run did. -/
theorem keepsStore_attempt_runFresh (deeper : Runner) (source : String) :
    KeepsStore s (Run.attempt (runFresh deeper source)) := by
  intro m hm
  rw [on_attempt, runFresh_on]
  exact ⟨hm, fun _ h => by cases h⟩

/-- A handler's action keeps the store, whatever runs deeper: a source it runs goes on a new
context, and the faults of that run come out as refusals or time-outs. -/
theorem perform_keepsStore (deeper : Runner) (keyword : String) (awaited : Bool)
    (limit : Option Float) (waited : Float) (a : Action) :
    KeepsStore s (perform deeper keyword awaited limit waited a) := by
  induction a generalizing waited with
  | give v => exact keepsStore_pure v
  | fail message => exact keepsStore_throw fun _ => Fault.noConfusion
  | refuse k reason => exact keepsStore_throw fun _ => Fault.noConfusion
  | forget k v => exact keepsStore_modifyContext_bind (fun _ => rfl) (keepsStore_pure v)
  | runHere _ => exact keepsStore_throw fun _ => Fault.noConfusion
  | runFresh source =>
    refine (keepsStore_attempt_runFresh deeper source).bind fun r => ?_
    rcases r with e | vs
    · cases e <;> exact keepsStore_throw fun _ => Fault.noConfusion
    · exact keepsStore_pure _
  | wait seconds next ih =>
    simp only [perform]
    split
    · split
      · exact keepsStore_throw fun _ => Fault.noConfusion
      · exact ih _
    · exact ih _

theorem callHandler_keepsStore (deeper : Runner) (keyword : String) (line : Int)
    (content : String) : KeepsStore s (callHandler deeper keyword line content) := by
  unfold callHandler
  refine keepsStore_context_bind fun c _ => ?_
  split
  · exact keepsStore_throw fun _ => Fault.noConfusion
  · rename_i h _
    dsimp only
    -- the call is noted in the journal when the handler has a label, then the action runs
    have hact : KeepsStore s (get >>= fun m : Machine =>
        perform deeper keyword h.awaited c.settings.handlerTimeout 0
          (h.act content m.journal.length)) :=
      keepsStore_get_bind fun _ _ => perform_keepsStore _ _ _ _ _ _
    split
    · exact keepsStore_modify_bind (fun _ => rfl) hact
    · exact hact

/-- An export whose content is not `default` ends the run with its content and stores nothing. -/
theorem exportDocument_of_ne {doc : Document} {source content : String}
    (h : content ≠ exportDefault) : exportDocument doc source content = pure [.text content] := by
  simp [exportDocument, h]

/-- An import keeps the store when every stored source, run with parameters one level deeper,
keeps it. -/
theorem importExport_keepsStore_of {deeper : Runner} (content : String) (stack : List String)
    (hdeeper : ∀ name f, s.get? name = some f →
      ∀ ps st, KeepsStore s (deeper f.source { parameters := some ps, stack := st })) :
    KeepsStore s (importExport deeper content stack) := by
  unfold importExport
  refine keepsStore_context_bind fun c hc => ?_
  split
  · split
    · exact keepsStore_pure _
    · exact keepsStore_throw fun _ => Fault.noConfusion
  · rename_i file hfile
    split
    · exact keepsStore_throw fun _ => Fault.noConfusion
    · exact hdeeper _ file (hc ▸ hfile) _ _

/-- A walk over records none of which exports by default keeps the store when its imports do. -/
theorem walk_keepsStore {deeper : Runner} {doc : Document} {source : String}
    {stack : List String}
    (himport : ∀ content, KeepsStore s (importExport deeper content stack)) :
    ∀ (records : List Record) (acc : List Value),
      (∀ r ∈ records, r.exportsByDefault = false) →
      KeepsStore s (walk deeper doc source stack records acc)
  | [], acc, _ => keepsStore_pure _
  | .text _ _ v :: rest, acc, h =>
    walk_keepsStore himport rest _ fun r hr => h r (List.mem_cons_of_mem _ hr)
  | .array _ _ items :: rest, acc, h =>
    walk_keepsStore himport rest _ fun r hr => h r (List.mem_cons_of_mem _ hr)
  | .error _ :: rest, acc, h =>
    walk_keepsStore himport rest _ fun r hr => h r (List.mem_cons_of_mem _ hr)
  | .command kw line content :: rest, acc, h => by
    have hrest : ∀ acc, KeepsStore s (walk deeper doc source stack rest acc) :=
      fun acc => walk_keepsStore himport rest acc fun r hr => h r (List.mem_cons_of_mem _ hr)
    have hcmd := h _ List.mem_cons_self
    simp only [walk]
    split
    · exact (himport content).bind fun vs => hrest _
    · split
      · -- an export line here does not export by default: it gives its content
        rename_i hkw
        have hne : content ≠ exportDefault := by
          intro hc
          simp [Record.exportsByDefault, hc, beq_iff_eq.1 hkw] at hcmd
        rw [exportDocument_of_ne hne]
        exact (keepsStore_pure _).bind fun _ => keepsStore_pure _
      · exact (callHandler_keepsStore deeper kw line content).bind fun v => hrest _

/-- A run of a plain source with parameters keeps the store when its imports do. -/
theorem runWith_keepsStore {deeper : Runner} {source : String} (hs : ExportsPlainly source)
    (ps : Ledger String) (stack : List String)
    (himport : ∀ content, KeepsStore s (importExport deeper content stack)) :
    KeepsStore s (runWith deeper source { parameters := some ps, stack := stack }) := by
  intro m hm
  rw [runWith_on]
  -- a run with parameters leaves the context's variables alone
  have hafter : Frame.afterReading { parameters := some ps, stack := stack } m source = m := rfl
  rw [hafter]
  split
  · exact ⟨hm, fun _ h => Fault.noConfusion (Except.error.inj h)⟩
  · refine KeepsStore.map _ (walk_keepsStore himport _ _ ?_) m hm
    exact Reading.read_noDefaultExport _ _ hs

/-- A store whose every source has plain export lines. -/
def Store.ExportsPlainly (s : Store) : Prop :=
  ∀ name f, s.get? name = some f → Colonnade.ExportsPlainly f.source

/-- On a store of plain sources, every stored source run with parameters keeps the store, at every
budget: the induction is on the budget, each import going one level deeper. -/
theorem runWithin_stored_keepsStore (hs : s.ExportsPlainly) :
    ∀ (n : Nat) name f, s.get? name = some f →
      ∀ ps stack, KeepsStore s (runWithin n f.source { parameters := some ps, stack := stack })
  | 0, _, _, _, _, _ => keepsStore_throw fun _ => Fault.noConfusion
  | n + 1, name, f, hf, ps, stack =>
    runWith_keepsStore (hs name f hf) ps stack fun content =>
      importExport_keepsStore_of content stack (runWithin_stored_keepsStore hs n)

/-- On a store of plain sources an import, at any budget, leaves the store as it was and never
refuses an export as taken. -/
theorem importExport_keepsStore (hs : s.ExportsPlainly) (n : Nat) (content : String)
    (stack : List String) : KeepsStore s (importExport (runWithin n) content stack) :=
  importExport_keepsStore_of content stack (runWithin_stored_keepsStore hs n)

/-- Importing from a store of stripped sources, none of whose export lines named a variable,
adds no file and never raises a duplicate export, however deeply the imports nest. -/
theorem import_adds_no_file (n : Nat) (content : String) (stack : List String) (m : Machine)
    (hstore : ∀ name f, m.context.files.get? name = some f → ∃ text,
      f.source = stripDefaultExports text ∧
        ∀ e ∈ readLines text, ∀ l ∈ e.2, l.keyword = "ex" → '$' ∉ l.content.toList) :
    ((importExport (runWithin n) content stack).on m).2.context.files = m.context.files ∧
      ∀ name, ((importExport (runWithin n) content stack).on m).1 ≠
        .error (.duplicateExport name) := by
  have hplain : m.context.files.ExportsPlainly := by
    intro name f hf
    obtain ⟨text, hsrc, htext⟩ := hstore name f hf
    rw [hsrc]
    exact exportsPlainly_strip htext
  exact importExport_keepsStore hplain n content stack m rfl

/-- A library whose default export is its only export line: importing it from the store that its
execution leaves, with an argument, stores nothing and refuses nothing. -/
theorem import_adds_no_file_sample :
    (∀ name f, ((execute "n: NM: lib\n1: WL: x\n2: EX: default").on
        { context := {} }).2.context.files.get? name = some f → ∃ text,
      f.source = stripDefaultExports text ∧
        ∀ e ∈ readLines text, ∀ l ∈ e.2, l.keyword = "ex" → '$' ∉ l.content.toList) ∧
      (((importExport (runWithin 2) "lib, a" []).on ((execute
          "n: NM: lib\n1: WL: x\n2: EX: default").on { context := {} }).2).2.context.files =
        ((execute "n: NM: lib\n1: WL: x\n2: EX: default").on { context := {} }).2.context.files ∧
      ∀ name, ((importExport (runWithin 2) "lib, a" []).on ((execute
          "n: NM: lib\n1: WL: x\n2: EX: default").on { context := {} }).2).1 ≠
        .error (.duplicateExport name)) := by
  have hstore : ∀ name f, ((execute "n: NM: lib\n1: WL: x\n2: EX: default").on
      { context := {} }).2.context.files.get? name = some f → ∃ text,
      f.source = stripDefaultExports text ∧
        ∀ e ∈ readLines text, ∀ l ∈ e.2, l.keyword = "ex" → '$' ∉ l.content.toList := by
    intro name f hf
    -- the one stored file is the library, stored without its default export
    have hsources : ∀ f ∈ ((execute "n: NM: lib\n1: WL: x\n2: EX: default").on
        { context := {} }).2.context.files.files.values,
        f.source = stripDefaultExports "n: NM: lib\n1: WL: x\n2: EX: default" := by
      decide +kernel
    exact ⟨_, hsources f (Ledger.mem_values_of_get? hf), by decide +kernel⟩
  exact ⟨hstore, import_adds_no_file 2 "lib, a" [] _ hstore⟩

/-- An export line that names a variable is stored as written, since as written it is not an export
by default; the variable reads `default` again when the stored source is imported, so the import
exports the library again and is refused. -/
theorem reimport_exports_again :
    ((execute "1: IM: lib").on
      ((execute "n: NM: lib\nd: DC: default\n1: EX: $d").on { context := {} }).2).1 =
      .error (.duplicateExport "lib") := by
  have h : (match ((execute "1: IM: lib").on
      ((execute "n: NM: lib\nd: DC: default\n1: EX: $d").on { context := {} }).2).1 with
      | .error (.duplicateExport name) => name == "lib"
      | _ => false) = true := by
    decide +kernel
  generalize ((execute "1: IM: lib").on _).1 = r at h ⊢
  rcases r with (_ | name | _ | _ | _ | _ | _ | _) | _ <;> simp_all

end Colonnade
