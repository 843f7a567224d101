import Colonnade.Proofs.Exports
/-! # How deep runs nest

A run goes deeper only through an import or a handler's run on an empty context, which goes no
deeper. On a store of plain sources each import leaves one name fewer to push, so every budget
beyond the store's size gives the same outcome and machine (`runWithin_stable`).
-/
namespace Colonnade

open Run

namespace Run

variable {α β : Type}

/-- Two computations that give the same outcome from every machine satisfying `I`. -/
def AgreeOn (I : Machine → Prop) (x y : Run α) : Prop :=
  ∀ m, I m → x.on m = y.on m

/-- A computation that keeps `I` whenever it succeeds. -/
def Keeps (I : Machine → Prop) (x : Run α) : Prop :=
  ∀ m a m', I m → x.on m = (.ok a, m') → I m'

variable {I : Machine → Prop}

theorem AgreeOn.refl (x : Run α) : AgreeOn I x x := fun _ _ => rfl

theorem AgreeOn.bind {x y : Run α} {f g : α → Run β} (hxy : AgreeOn I x y) (hx : Keeps I x)
    (hfg : ∀ a, AgreeOn I (f a) (g a)) : AgreeOn I (x >>= f) (y >>= g) := by
  intro m hm
  rw [on_bind, on_bind, ← hxy m hm]
  rcases hxm : x.on m with ⟨_ | a, m'⟩
  · rfl
  · exact hfg a m' (hx m a m' hm hxm)

end Run

/-! ## Congruence: runs that reach the runner alike -/

section Congruence

variable {d₁ d₂ : Runner}

/-- A handler's action reaches the runner only to run a source on a new, empty context. -/
theorem perform_congr
    (hfresh : ∀ source m, m.context = {} → (d₁ source {}).on m = (d₂ source {}).on m)
    (keyword : String) (awaited : Bool) (limit : Option Float) (waited : Float) (a : Action)
    (m : Machine) :
    (perform d₁ keyword awaited limit waited a).on m =
      (perform d₂ keyword awaited limit waited a).on m := by
  induction a generalizing waited with
  | give v => rfl
  | fail message => rfl
  | refuse k reason => rfl
  | forget k v => rfl
  | runHere _ => rfl
  | runFresh source =>
    simp only [perform]
    rw [on_bind, on_bind, on_attempt, on_attempt, runFresh_on, runFresh_on, hfresh source _ rfl]
  | wait seconds next ih =>
    simp only [perform]
    split
    · split
      · rfl
      · exact ih _
    · exact ih _

theorem callHandler_congr
    (hfresh : ∀ source m, m.context = {} → (d₁ source {}).on m = (d₂ source {}).on m)
    (keyword : String) (line : Int) (content : String) (m : Machine) :
    (callHandler d₁ keyword line content).on m =
      (callHandler d₂ keyword line content).on m := by
  simp only [callHandler, on_context_bind]
  split
  · rfl
  · split <;> simp only [on_modify_bind, on_get_bind, perform_congr hfresh]

/-- An import reaches the runner only for a stored name that is not on the stack. -/
theorem importExport_congr {content : String} {stack : List String} {m : Machine}
    (h : ∀ name f ps, m.context.files.get? name = some f → name ∉ stack →
      (d₁ f.source { parameters := some ps, stack := stack ++ [name] }).on m =
        (d₂ f.source { parameters := some ps, stack := stack ++ [name] }).on m) :
    (importExport d₁ content stack).on m = (importExport d₂ content stack).on m := by
  simp only [importExport, on_context_bind]
  split
  · rfl
  · rename_i file hfile
    split
    · rfl
    · exact h _ file _ hfile ‹_›

/-- Two runners give the same walk from machines satisfying `I` when its imports and handler calls
agree there and the first runner's keep `I` as the walk goes on. An export ends the walk, so
nothing is asked of it. -/
theorem walk_congr (I : Machine → Prop) {doc : Document} {source : String} {stack : List String}
    (himport : ∀ content,
      AgreeOn I (importExport d₁ content stack) (importExport d₂ content stack))
    (himportKeeps : ∀ content, Keeps I (importExport d₁ content stack))
    (hcall : ∀ kw line content,
      AgreeOn I (callHandler d₁ kw line content) (callHandler d₂ kw line content))
    (hcallKeeps : ∀ kw line content, Keeps I (callHandler d₁ kw line content)) :
    ∀ (records : List Record) (acc : List Value),
      AgreeOn I (walk d₁ doc source stack records acc) (walk d₂ doc source stack records acc)
  | [], _ => AgreeOn.refl _
  | .text _ _ _ :: rest, _ => walk_congr I himport himportKeeps hcall hcallKeeps rest _
  | .array _ _ _ :: rest, _ => walk_congr I himport himportKeeps hcall hcallKeeps rest _
  | .error _ :: rest, _ => walk_congr I himport himportKeeps hcall hcallKeeps rest _
  | .command kw line content :: rest, acc => by
    have hrest : ∀ acc, AgreeOn I (walk d₁ doc source stack rest acc)
        (walk d₂ doc source stack rest acc) :=
      walk_congr I himport himportKeeps hcall hcallKeeps rest
    simp only [walk]
    split
    · exact (himport content).bind (himportKeeps content) fun _ => hrest _
    · split
      · exact AgreeOn.refl _
      · exact (hcall kw line content).bind (hcallKeeps kw line content) fun _ => hrest _

/-- Two runners give the same run of a source when the walk after reading satisfies the
conditions of `walk_congr`. -/
theorem runWith_congr (I : Machine → Prop) {source : String} {f : Frame} {m : Machine}
    (hI : I (f.afterReading m source))
    (himport : ∀ content,
      AgreeOn I (importExport d₁ content f.stack) (importExport d₂ content f.stack))
    (himportKeeps : ∀ content, Keeps I (importExport d₁ content f.stack))
    (hcall : ∀ kw line content,
      AgreeOn I (callHandler d₁ kw line content) (callHandler d₂ kw line content))
    (hcallKeeps : ∀ kw line content, Keeps I (callHandler d₁ kw line content)) :
    (runWith d₁ source f).on m = (runWith d₂ source f).on m := by
  rw [runWith_on, runWith_on]
  split
  · rfl
  · rw [on_map, on_map, walk_congr I himport himportKeeps hcall hcallKeeps _ _ _ hI]

end Congruence

/-! ## Runs on a new context -/

/-- A context with nothing stored and no handler. -/
def Context.Bare (c : Context) : Prop := c.files = {} ∧ c.keywords = {}

theorem Context.bare_empty : ({} : Context).Bare := ⟨rfl, rfl⟩

/-- On a bare context an import finds nothing and leaves the machine as it was. -/
theorem importExport_on_bare (deeper : Runner) (content : String) (stack : List String)
    {m : Machine} (hm : m.context.Bare) :
    ((importExport deeper content stack).on m).2 = m := by
  simp only [importExport, on_context_bind, Store.get?, hm.1]
  split
  · split <;> rfl
  · rename_i hfile
    cases hfile

/-- On a bare context a handler call fails: no handler takes the keyword. -/
theorem callHandler_on_bare (deeper : Runner) (keyword : String) (line : Int) (content : String)
    {m : Machine} (hm : m.context.Bare) :
    (callHandler deeper keyword line content).on m =
      (.error (.staged ⟨keyword, line, s!"Unknown keyword '{keyword}' (line:{line})",
        .unknownKeyword⟩), m) := by
  simp only [callHandler, on_context_bind, hm.2]
  rfl

/-- A run on a bare context never reaches the runner: any two runners give the same run. -/
theorem runWith_bare_congr (d₁ d₂ : Runner) (source : String) {m : Machine}
    (hm : m.context.Bare) : (runWith d₁ source {}).on m = (runWith d₂ source {}).on m := by
  let I : Machine → Prop := fun m => m.context.Bare
  have hkeepsImport : ∀ content, Keeps I (importExport d₁ content []) := by
    intro content m' vs m'' hm' hrun
    have hsame : m'' = m' := by simpa [hrun] using importExport_on_bare d₁ content [] hm'
    rw [hsame]
    exact hm'
  refine runWith_congr I ?_ ?_ hkeepsImport ?_ ?_
  · -- reading changes the variables only
    show Context.Bare _
    rw [Frame.afterReading_context]
    exact hm
  · intro content m' hm'
    exact importExport_congr fun name f _ hf _ => by
      rw [hm'.1] at hf
      cases hf
  · intro kw line content m' hm'
    rw [callHandler_on_bare d₁ kw line content hm', callHandler_on_bare d₂ kw line content hm']
  · intro kw line content m' v m'' hm' hrun
    rw [callHandler_on_bare d₁ kw line content hm'] at hrun
    cases hrun

/-- A run on a new context gives the same outcome at every budget of one level or more. -/
theorem runWithin_fresh (n n' : Nat) (source : String) {m : Machine} (hm : m.context = {}) :
    (runWithin (n + 1) source {}).on m = (runWithin (n' + 1) source {}).on m :=
  runWith_bare_congr _ _ source (hm ▸ Context.bare_empty)

/-! ## Imports on a store of plain sources -/

/-- The stored names that are not on an import stack. -/
def Store.unvisited (s : Store) (stack : List String) : List String :=
  s.names.filter (· ∉ stack)

/-- An import of a stored name leaves one name fewer to import. -/
theorem Store.unvisited_length_lt {s : Store} {stack : List String} {name : String}
    {f : ExportedFile} (hf : s.get? name = some f) (hn : name ∉ stack) :
    (s.unvisited (stack ++ [name])).length < (s.unvisited stack).length := by
  have hmem : name ∈ s.names := Ledger.mem_keys_of_get? hf
  have heq : s.unvisited (stack ++ [name]) = (s.unvisited stack).filter (· ≠ name) := by
    simp only [Store.unvisited, List.filter_filter, List.mem_append, List.mem_singleton, not_or]
    congr 1
    funext x
    simp [Bool.and_comm]
  rw [heq, List.length_filter_lt_length_iff_exists]
  exact ⟨name, List.mem_filter.2 ⟨hmem, by simpa using hn⟩, by simp⟩

variable {s : Store}

/-- One more level of budget changes nothing for a run on a store of plain sources when it changes
nothing for the imports the run makes. A handler's run on a new context needs one level, and the
store stays as it is between the steps of the walk, since no import can export. -/
theorem runWithin_succ_congr (hs : s.ExportsPlainly) {n : Nat} (hn : 1 ≤ n) {source : String}
    {f : Frame} {m : Machine} (hm : m.context.files = s)
    (himports : ∀ name file ps (m' : Machine), s.get? name = some file → name ∉ f.stack →
      m'.context.files = s →
      (runWithin n file.source { parameters := some ps, stack := f.stack ++ [name] }).on m' =
        (runWithin (n + 1) file.source
          { parameters := some ps, stack := f.stack ++ [name] }).on m') :
    (runWithin (n + 1) source f).on m = (runWithin (n + 2) source f).on m := by
  obtain ⟨n, rfl⟩ : ∃ n', n = n' + 1 := ⟨n - 1, by omega⟩
  show (runWith (runWithin (n + 1)) source f).on m = (runWith (runWithin (n + 2)) source f).on m
  let I : Machine → Prop := fun m => m.context.files = s
  have hfresh : ∀ source (m' : Machine), m'.context = {} →
      (runWithin (n + 1) source {}).on m' = (runWithin (n + 2) source {}).on m' :=
    fun source _ hm' => runWithin_fresh n (n + 1) source hm'
  refine runWith_congr I ?_ ?_ ?_ ?_ ?_
  · -- reading changes the variables only
    show Context.files _ = s
    rw [Frame.afterReading_context]
    exact hm
  · intro content m' hm'
    exact importExport_congr fun name file ps hfile hname =>
      himports name file ps m' (hm' ▸ hfile) hname hm'
  · intro content m' vs m'' hm' hrun
    have hkeep := (importExport_keepsStore hs (n + 1) content f.stack m' hm').1
    rw [hrun] at hkeep
    exact hkeep
  · intro kw line content m' _
    exact callHandler_congr hfresh kw line content m'
  · intro kw line content m' v m'' hm' hrun
    have hkeep := (callHandler_keepsStore (runWithin (n + 1)) kw line content m' hm').1
    rw [hrun] at hkeep
    exact hkeep

/-- One more level of budget changes nothing for a run at an import stack that leaves `k` stored
names to import, once the budget exceeds `k` by two. The induction is on `k`: an import runs one
level deeper with one name fewer left. -/
theorem runWithin_succ_stable (hs : s.ExportsPlainly) :
    ∀ (k n : Nat), k + 2 ≤ n → ∀ (source : String) (f : Frame) (m : Machine),
      m.context.files = s → (s.unvisited f.stack).length ≤ k →
      (runWithin n source f).on m = (runWithin (n + 1) source f).on m := by
  intro k
  induction k with
  | zero =>
    intro n hn source f m hm hk
    obtain ⟨n, rfl⟩ : ∃ n', n = n' + 1 := ⟨n - 1, by omega⟩
    -- every stored name is on the stack: no import reaches the runner
    refine runWithin_succ_congr hs (by omega) hm fun name file _ _ hfile hname _ => ?_
    have := Store.unvisited_length_lt hfile hname
    omega
  | succ k ih =>
    intro n hn source f m hm hk
    obtain ⟨n, rfl⟩ : ∃ n', n = n' + 1 := ⟨n - 1, by omega⟩
    refine runWithin_succ_congr hs (by omega) hm fun name file ps m' hfile hname hm' => ?_
    have hfewer := Store.unvisited_length_lt hfile hname
    exact ih n (by omega) file.source _ m' hm' (by simp only at hfewer ⊢; omega)

/-- On a store of plain sources a run nests at most two levels deeper than the store has names:
every budget from there on gives the same outcome and leaves the same machine. -/
theorem runWithin_stable (m : Machine) (hs : m.context.files.ExportsPlainly) (source : String)
    {n n' : Nat} (hn : m.context.files.names.length + 2 ≤ n) (hn' : n ≤ n') :
    (runWithin n' source {}).on m = (runWithin n source {}).on m := by
  obtain ⟨k, rfl⟩ := Nat.le.dest hn'
  induction k with
  | zero => rfl
  | succ k ih =>
    have hall : (m.context.files.unvisited []).length ≤ m.context.files.names.length :=
      List.length_filter_le _ _
    rw [← Nat.add_assoc, ← runWithin_succ_stable hs _ (n + k) (by omega) source {} m rfl hall]
    exact ih (by omega)

/-- A store of one plain library, imported twice: a budget of three levels gives what the full
budget gives. -/
theorem runWithin_stable_sample :
    let m : Machine := { context := { files := ⟨({} : Ledger ExportedFile).insert "lib"
      ⟨"lib", {}, "1: WL: x\n2: EX: done"⟩⟩ } }
    m.context.files.ExportsPlainly ∧ m.context.files.names.length + 2 ≤ 3 ∧
      3 ≤ nestingBudget ∧
      (runWithin nestingBudget "1: IM: lib\n2: IM: lib" {}).on m =
        (runWithin 3 "1: IM: lib\n2: IM: lib" {}).on m := by
  intro m
  have hs : m.context.files.ExportsPlainly := by
    intro name f hf
    by_cases hname : name = "lib"
    · subst hname
      simp only [m, Store.get?, Ledger.get?_insert_self, Option.some.injEq] at hf
      subst hf
      decide +kernel
    · simp only [m, Store.get?, Ledger.get?_insert_of_ne _ _ hname] at hf
      cases hf
  have hlen : m.context.files.names.length + 2 ≤ 3 := by decide
  exact ⟨hs, hlen, by decide, runWithin_stable m hs _ hlen (by decide)⟩

end Colonnade
