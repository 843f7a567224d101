import Colonnade.Proofs.Declarations
/-! # Staged errors through the rest of a reading

A line writes under its own identifier only, and keeps an error there unless it is an `ar` line
(`Reading.readLine_keeps_error`). So a staged error survives the later lines, and a run stops on
the first error record before any command (`staged_error_survives_later_lines`); an `ar` line is
the exception (`array_line_replaces_staged_error`).
-/
namespace Colonnade

/-- Whether a kept line is an `ar` line with identifier `key`. -/
def startsArrayAt (key : String) (entry : Nat × Option Line) : Bool :=
  entry.2.any fun l => l.identifier == key && Keyword.lookup? l.keyword == some .ar

namespace Reading

/-- What one step of reading does to the records: nothing, or one write under `key`. -/
def WritesAt (st st' : Reading) (key : String) : Prop :=
  st'.doc.content = st.doc.content ∨ ∃ r, st'.doc.content = st.doc.content.insert key r

theorem WritesAt.get?_of_ne {st st' : Reading} {key j : String} (h : WritesAt st st' key)
    (hj : j ≠ key) : st'.doc.content.get? j = st.doc.content.get? j := by
  rcases h with h | ⟨r, h⟩
  · rw [h]
  · rw [h, Ledger.get?_insert_of_ne _ _ hj]

variable {o : ReadOptions} {st : Reading} {e : StagedError}

theorem writesAt_put (st : Reading) (key : String) (r : Record) : WritesAt st (st.put key r) key :=
  Or.inr ⟨r, rfl⟩

theorem writesAt_stage (st : Reading) (key keyword : String) (n : Nat) (message : String)
    (kind : ErrorKind) : WritesAt st (st.stage key keyword n message kind) key :=
  Or.inr ⟨_, rfl⟩

theorem readArray_writesAt (k : Keyword) (ident content : String) (n : Nat) :
    WritesAt st (st.readArray o k ident content n) ident := by
  unfold readArray
  split
  · exact writesAt_put _ _ _
  · split
    · exact writesAt_put _ _ _
    · exact writesAt_stage _ _ _ _ _ _
  · split
    · exact writesAt_stage _ _ _ _ _ _
    · exact Or.inl rfl
  · exact Or.inl rfl

theorem readOther_writesAt (k : Option Keyword) (name ident content : String) (n : Nat)
    (occupied : Bool) : WritesAt st (st.readOther o k name ident content n occupied) ident := by
  unfold readOther
  split
  · exact Or.inl rfl
  · exact Or.inl rfl
  · split
    · split
      · exact writesAt_stage _ _ _ _ _ _
      · exact writesAt_put _ _ _
    · exact writesAt_stage _ _ _ _ _ _

/-- A line with fields writes under its identifier or nowhere. -/
theorem readLine_writesAt (defer : Bool) (l : Line) :
    WritesAt st (st.readLine o defer l) l.identifier := by
  unfold readLine
  dsimp only
  split
  · exact writesAt_stage _ _ _ _ _ _
  · split
    · split
      · exact writesAt_put _ _ _
      · exact writesAt_stage _ _ _ _ _ _
    · split
      · split
        · exact readArray_writesAt _ _ _ _
        · exact readOther_writesAt _ _ _ _ _ _
      · exact readOther_writesAt _ _ _ _ _ _

theorem readArray_keeps_error (k : Keyword) (hk : k ≠ .ar) (ident content : String) (n : Nat)
    (he : st.doc.content.get? ident = some (.error e)) :
    ∃ e', (st.readArray o k ident content n).doc.content.get? ident = some (.error e') := by
  unfold readArray
  split
  · exact absurd rfl hk
  · simp only [he]
    exact ⟨_, Ledger.get?_insert_self _ _ _⟩
  · split
    · exact ⟨_, Ledger.get?_insert_self _ _ _⟩
    · exact ⟨e, he⟩
  · exact ⟨e, he⟩

/-- On a taken identifier, a declaration or a name leaves the records alone, and every other line
that is not an array line stages an error: a command on a taken identifier is a duplicate. -/
theorem readOther_keeps_error (k : Option Keyword) (name ident content : String) (n : Nat)
    (he : st.doc.content.get? ident = some (.error e)) :
    ∃ e', (st.readOther o k name ident content n true).doc.content.get? ident =
      some (.error e') := by
  unfold readOther
  split
  · exact ⟨e, he⟩
  · exact ⟨e, he⟩
  · split
    · exact ⟨_, Ledger.get?_insert_self _ _ _⟩
    · exact ⟨_, Ledger.get?_insert_self _ _ _⟩

/-- A line that finds an error under its identifier leaves an error there, unless it is an `ar`
line. -/
theorem readLine_keeps_error (defer : Bool) (l : Line)
    (hl : (Keyword.lookup? l.keyword == some .ar) = false)
    (he : st.doc.content.get? l.identifier = some (.error e)) :
    ∃ e', (st.readLine o defer l).doc.content.get? l.identifier = some (.error e') := by
  have hocc : st.doc.content.contains l.identifier = true := by simp [Ledger.contains, he]
  unfold readLine
  dsimp only
  split
  · exact ⟨_, Ledger.get?_insert_self _ _ _⟩
  · rw [hocc]
    simp only [Bool.not_true, Bool.false_and, Bool.false_eq_true, if_false]
    split
    · rename_i k hk
      split
      · refine readArray_keeps_error k ?_ _ _ _ he
        rintro rfl
        simp [hk] at hl
      · exact readOther_keeps_error _ _ _ _ _ he
    · exact readOther_keeps_error _ _ _ _ _ he

/-- One kept line, with or without fields, leaves an error under `key` an error unless it is an
`ar` line with identifier `key`. -/
theorem readEntry_keeps_error (defer : Bool) (entry : Nat × Option Line) {key : String}
    (hentry : startsArrayAt key entry = false) (he : st.doc.content.get? key = some (.error e)) :
    ∃ e', (st.readEntry o defer entry).doc.content.get? key = some (.error e') := by
  rcases entry with ⟨n, _ | l⟩
  · by_cases hk : key = toString n
    · subst hk
      exact ⟨_, Ledger.get?_insert_self _ _ _⟩
    · exact ⟨e, ((writesAt_stage _ _ _ _ _ _).get?_of_ne hk).trans he⟩
  · by_cases hk : key = l.identifier
    · subst hk
      have hl : (Keyword.lookup? l.keyword == some .ar) = false := by
        simpa [startsArrayAt] using hentry
      exact readLine_keeps_error defer l hl he
    · exact ⟨e, ((readLine_writesAt defer l).get?_of_ne hk).trans he⟩

/-- The run lemma: through any lines none of which is an `ar` line at `key`. -/
theorem foldl_readEntry_keeps_error (defer : Bool) (entries : List (Nat × Option Line))
    {key : String} (hlater : ∀ entry ∈ entries, startsArrayAt key entry = false)
    (he : st.doc.content.get? key = some (.error e)) :
    ∃ e', (entries.foldl (readEntry o defer) st).doc.content.get? key = some (.error e') := by
  induction entries generalizing st e with
  | nil => exact ⟨e, he⟩
  | cons entry rest ih =>
    obtain ⟨e', he'⟩ := readEntry_keeps_error defer entry (hlater entry (by simp)) he
    exact ih (fun entry' h' => hlater entry' (List.mem_cons_of_mem _ h')) he'

end Reading

/-- The reading after the first `i` kept lines of a source. -/
def Document.readPrefix (o : ReadOptions) (scope : Ledger String) (source : String) (i : Nat) :
    Reading :=
  ((readLines source).take i).foldl (Reading.readEntry o (defersParameters o (readLines source)))
    { scope }

theorem Document.read_eq_foldl_drop (o : ReadOptions) (scope : Ledger String) (source : String)
    (i : Nat) :
    Document.read o scope source =
      ((readLines source).drop i).foldl
        (Reading.readEntry o (defersParameters o (readLines source)))
        (Document.readPrefix o scope source i) := by
  rw [Document.readPrefix, ← List.foldl_append, List.take_append_drop]
  rfl

/-- The reading of the first `i` kept lines of a source that a run in a frame makes. -/
def Frame.readingUpTo (f : Frame) (c : Context) (source : String) (i : Nat) : Reading :=
  Document.readPrefix (c.readOptions f.parameters.isSome) (f.parameters.getD c.«variables») source i

theorem Document.mem_errors_of_get? {d : Document} {key : String} {e : StagedError}
    (h : d.content.get? key = some (.error e)) : e ∈ d.errors :=
  List.mem_filterMap.mpr ⟨_, Ledger.mem_values_of_get? h, rfl⟩

/-- An error staged under `key` by the first `i` lines stays an error through every later line
but an `ar` line at `key`, in every scope. So the document has a first error record in the order
of identifiers, and a run of the source stops on that error before any command runs: the machine
is the one its reading left. -/
theorem staged_error_survives_later_lines (m : Machine) (f : Frame) (source : String) {i : Nat}
    {key : String} {e : StagedError}
    (hstaged : (f.readingUpTo m.context source i).doc.content.get? key = some (.error e))
    (hlater : ∀ entry ∈ (readLines source).drop i, startsArrayAt key entry = false) :
    (∃ e', (f.reading m.context source).doc.content.get? key = some (.error e')) ∧
      ∃ first pre post,
        (f.reading m.context source).doc.content.values = pre ++ .error first :: post ∧
        (∀ r ∈ pre, r.error? = none) ∧
        ∀ deeper : Runner,
          (runWith deeper source f).on m = (.error (.staged first), f.afterReading m source) := by
  have hkept : ∃ e', (f.reading m.context source).doc.content.get? key = some (.error e') := by
    rw [Frame.reading, Document.read_eq_foldl_drop _ _ _ i]
    exact Reading.foldl_readEntry_keeps_error _ _ hlater hstaged
  obtain ⟨e', he'⟩ := hkept
  have hne : (f.reading m.context source).doc.errors ≠ [] :=
    List.ne_nil_of_mem (Document.mem_errors_of_get? he')
  -- the first error of the document is its first error record, and the run stops on it
  obtain ⟨first, rest, hfirst⟩ := List.exists_cons_of_ne_nil hne
  obtain ⟨pre, post, hvals, hpre⟩ := Document.errors_eq_cons hfirst
  exact ⟨⟨e', he'⟩, first, pre, post, hvals, hpre, fun deeper => runWith_on_of_errors hfirst⟩

theorem staged_error_survives_sample :
    (({} : Frame).readingUpTo {} "broken\n1: WL: x" 1).doc.content.get? "1" =
        some (.error ⟨"none", 1, "Invalid syntax (line:1)", .invalidSyntax⟩) ∧
      (∀ entry ∈ (readLines "broken\n1: WL: x").drop 1, startsArrayAt "1" entry = false) ∧
      ((∃ e', (({} : Frame).reading {} "broken\n1: WL: x").doc.content.get? "1" =
          some (.error e')) ∧
        ∃ first pre post,
          (({} : Frame).reading {} "broken\n1: WL: x").doc.content.values =
            pre ++ .error first :: post ∧
          (∀ r ∈ pre, r.error? = none) ∧
          ∀ deeper : Runner,
            (runWith deeper "broken\n1: WL: x" {}).on { context := {} } =
              (.error (.staged first),
                ({} : Frame).afterReading { context := {} } "broken\n1: WL: x")) := by
  have hstaged : (({} : Frame).readingUpTo {} "broken\n1: WL: x" 1).doc.content.get? "1" =
      some (.error ⟨"none", 1, "Invalid syntax (line:1)", .invalidSyntax⟩) := by decide +kernel
  have hlater : ∀ entry ∈ (readLines "broken\n1: WL: x").drop 1,
      startsArrayAt "1" entry = false := by decide +kernel
  exact ⟨hstaged, hlater,
    staged_error_survives_later_lines { context := {} } {} _ hstaged hlater⟩

/-- The exception: a line that cannot be read stages a syntax error under its number, and a later
`ar` line with that number as identifier starts an array in its place, so the run returns. -/
theorem array_line_replaces_staged_error :
    (({} : Frame).readingUpTo {} "broken\n1: AR: x" 1).doc.content.get? "1" =
        some (.error ⟨"none", 1, "Invalid syntax (line:1)", .invalidSyntax⟩) ∧
      (({} : Frame).reading {} "broken\n1: AR: x").doc.content.get? "1" =
        some (.array "ar" 2 ["x"]) ∧
      (({} : Frame).reading {} "broken\n1: AR: x").doc.errors = [] ∧
      ((execute "broken\n1: AR: x").on { context := {} }).1 = .ok [Value.ofTexts ["x"]] := by
  have herr : (({} : Frame).reading {} "broken\n1: AR: x").doc.errors = [] := by decide +kernel
  have hvals : (({} : Frame).reading {} "broken\n1: AR: x").doc.content.values =
      [.array "ar" 2 ["x"]] := by decide +kernel
  refine ⟨by decide +kernel, by decide +kernel, herr, ?_⟩
  show ((runWith (runWithin 319) "broken\n1: AR: x" {}).on _).1 = _
  rw [runWith_on, herr]
  simp only [hvals, walk, Run.on_map, Run.on_pure]
  rfl

end Colonnade
