import Colonnade.Proofs.KeyOrder
import Colonnade.Proofs.Reimport
/-! # What stands under a key

A text is written only by a `wl` line on a free numeral and no later line touches its key; an array
is started by the last `ar` line at the key and grows only by `ad` lines there. `Reading.LineEffect`
says what one line does to the records; the step and run lemmas carry `WriteDiscipline` through a
reading (`records_follow_write_discipline`).
-/
namespace Colonnade

/-- The contents that a kept line appends to an array under `key`, substituted in its scope: the
content of an `ad` line at `key`, nothing for any other line. -/
def appendedBy (key : String) (scope : Ledger String) : Nat × Option Line → List String
  | (_, some l) =>
    if l.identifier = key ∧ Keyword.lookup? l.keyword = some .ad then
      [(substitute scope.get? l.content).text]
    else []
  | (_, none) => []

/-- The contents that the `ad` lines at `key` append, in line order, each substituted in the scope
it is read in. -/
def appendedAt (defer : Bool) (key : String) :
    Ledger String → List (Nat × Option Line) → List String
  | _, [] => []
  | scope, e :: es => appendedBy key scope e ++ appendedAt defer key (declare defer scope e) es

variable {o : ReadOptions} {defer : Bool}

theorem touchedKeys_append (scope : Ledger String) (xs ys : List (Nat × Option Line)) :
    touchedKeys o defer scope (xs ++ ys) =
      touchedKeys o defer scope xs ++ touchedKeys o defer (xs.foldl (declare defer) scope) ys := by
  induction xs generalizing scope with
  | nil => rfl
  | cons e xs ih => rw [List.cons_append, touchedKeys, touchedKeys, ih, List.append_assoc]; rfl

theorem appendedAt_append (key : String) (scope : Ledger String)
    (xs ys : List (Nat × Option Line)) :
    appendedAt defer key scope (xs ++ ys) =
      appendedAt defer key scope xs ++ appendedAt defer key (xs.foldl (declare defer) scope) ys := by
  induction xs generalizing scope with
  | nil => rfl
  | cons e xs ih => rw [List.cons_append, appendedAt, appendedAt, ih, List.append_assoc]; rfl

/-- The scope after the lines up to and including one line, then the lines after it. -/
theorem foldl_declare_split (scope : Ledger String) (pre post : List (Nat × Option Line))
    (e : Nat × Option Line) :
    (pre ++ e :: post).foldl (declare defer) scope =
      post.foldl (declare defer) ((pre ++ [e]).foldl (declare defer) scope) := by
  rw [← List.foldl_append, List.append_assoc, List.singleton_append]

/-- A line with fields touches its identifier or nothing. -/
theorem touchedKey_some_line {scope : Ledger String} {n : Nat} {l : Line} {key : String}
    (h : l.identifier ≠ key) : touchedKey o defer scope (n, some l) ≠ some key := by
  intro he
  simp only [touchedKey] at he
  split at he
  · cases he
  · exact h (Option.some.inj he)

namespace Reading

/-- What reading a line with fields can do to the records: pass over them (a declaration, a name,
or an `rm` line that the settings pass over, whose content substitutes with no missing name
reported), stage an error, write a text on a free numeral, start an array, append to an array
already there, or write a command. -/
inductive LineEffect (o : ReadOptions) (defer : Bool) (st : Reading) (l : Line) :
    Ledger Record → Prop
  | passes : touchedKey o defer st.scope (l.number, some l) = none →
      LineEffect o defer st l st.doc.content
  | error (e : StagedError) :
      LineEffect o defer st l (st.doc.content.insert l.identifier (.error e))
  | text : reportedMissing defer st.scope l.content = [] → Keyword.lookup? l.keyword = some .wl →
      st.doc.content.contains l.identifier = false → isNumeral l.identifier = true →
      LineEffect o defer st l (st.doc.content.insert l.identifier
        (.text l.keyword l.number (substitute st.scope.get? l.content).text))
  | start : reportedMissing defer st.scope l.content = [] → Keyword.lookup? l.keyword = some .ar →
      LineEffect o defer st l (st.doc.content.insert l.identifier
        (.array "ar" l.number [(substitute st.scope.get? l.content).text]))
  | append (kw : String) (m : Int) (items : List String) :
      reportedMissing defer st.scope l.content = [] → Keyword.lookup? l.keyword = some .ad →
      st.doc.content.get? l.identifier = some (.array kw m items) →
      LineEffect o defer st l (st.doc.content.insert l.identifier
        (.array kw m (items ++ [(substitute st.scope.get? l.content).text])))
  | command (kw : String) (n : Int) (v : String) :
      LineEffect o defer st l (st.doc.content.insert l.identifier (.command kw n v))

variable {st : Reading} {l : Line}

theorem readArray_effect (hm : reportedMissing defer st.scope l.content = []) {k : Keyword}
    (hk : Keyword.lookup? l.keyword = some k) (hcat : k.category = .array) :
    LineEffect o defer st l
      (st.readArray o k l.identifier (substitute st.scope.get? l.content).text l.number).doc.content := by
  cases k with
  | ar => exact .start hm hk
  | ad =>
    simp only [readArray]
    split
    · rename_i kw m items hget
      exact .append kw m items hm hk hget
    · exact .error _
  | rm =>
    simp only [readArray]
    split
    · exact .error _
    · rename_i hkeep
      exact .passes (by simp [touchedKey, hm, hk, leavesRecords, hkeep])
  | _ => cases hcat

/-- Declarations and names pass over the records; other keywords outside the arrays write a
command on a free identifier, or stage an error. -/
theorem readOther_effect (hm : reportedMissing defer st.scope l.content = []) :
    LineEffect o defer st l (st.readOther o (Keyword.lookup? l.keyword) l.keyword l.identifier
      (substitute st.scope.get? l.content).text l.number
      (st.doc.content.contains l.identifier)).doc.content := by
  unfold readOther
  split
  · rename_i hdc
    exact .passes (by simp [touchedKey, hm, hdc, leavesRecords])
  · rename_i hnm
    exact .passes (by simp [touchedKey, hm, hnm, leavesRecords])
  · split
    · split
      · exact .error _
      · exact .command _ _ _
    · exact .error _

/-- The inversion lemma for a line with fields. -/
theorem readLine_effect (defer : Bool) (l : Line) :
    LineEffect o defer st l (st.readLine o defer l).doc.content := by
  unfold readLine
  dsimp only
  rw [show (if defer = true then (substitute st.scope.get? l.content).missing.filter
      (fun m => !isParameterName m) else (substitute st.scope.get? l.content).missing) =
    reportedMissing defer st.scope l.content from rfl]
  split
  · exact .error _
  · rename_i hm
    split
    · -- a value line on a free identifier
      rename_i hwl
      simp only [Bool.and_eq_true, Bool.not_eq_true', beq_iff_eq] at hwl
      split
      · exact .text hm hwl.2 hwl.1 ‹_›
      · exact .error _
    · split
      · rename_i k hk
        split
        · rename_i harr
          exact readArray_effect hm hk (by simpa using harr)
        · exact readOther_effect hm
      · exact readOther_effect hm

end Reading

/-- How the record under `key` came to be, after `lines` read from `scope` on, each line in the
scope that the declarations before it leave. A text was written by the first line that touched the
key, a `wl` line on a numeral with no missing name, and no later line touched the key. An array was
started by the last `ar` line at the key and holds its content, then those of the `ad` lines at
the key after it. -/
structure WriteDiscipline (o : ReadOptions) (defer : Bool) (scope : Ledger String)
    (lines : List (Nat × Option Line)) (records : Ledger Record) (key : String) : Prop where
  text : ∀ {kw : String} {n : Int} {v : String}, records.get? key = some (.text kw n v) →
    ∃ pre l post, lines = pre ++ (l.number, some l) :: post ∧ l.identifier = key ∧
      Keyword.lookup? l.keyword = some .wl ∧ isNumeral key = true ∧ kw = l.keyword ∧
      n = l.number ∧ reportedMissing defer (pre.foldl (declare defer) scope) l.content = [] ∧
      v = (substitute (pre.foldl (declare defer) scope).get? l.content).text ∧
      key ∉ touchedKeys o defer scope pre ∧
      key ∉ touchedKeys o defer ((pre ++ [(l.number, some l)]).foldl (declare defer) scope) post
  array : ∀ {kw : String} {n : Int} {items : List String},
    records.get? key = some (.array kw n items) →
    ∃ pre l post, lines = pre ++ (l.number, some l) :: post ∧ l.identifier = key ∧
      Keyword.lookup? l.keyword = some .ar ∧ kw = "ar" ∧ n = l.number ∧
      reportedMissing defer (pre.foldl (declare defer) scope) l.content = [] ∧
      (∀ e ∈ post, startsArrayAt key e = false) ∧
      items = (substitute (pre.foldl (declare defer) scope).get? l.content).text ::
        appendedAt defer key ((pre ++ [(l.number, some l)]).foldl (declare defer) scope) post

namespace WriteDiscipline

variable {scope : Ledger String} {lines : List (Nat × Option Line)} {records : Ledger Record}
  {key : String}

theorem empty : WriteDiscipline o defer scope [] {} key where
  text h := by simp at h
  array h := by simp at h

/-- An error or a command under the key asks nothing of the lines. -/
theorem of_value?_none {r : Record} (hget : records.get? key = some r) (hr : r.value? = none) :
    WriteDiscipline o defer scope lines records key where
  text h := by rw [hget] at h; cases h; cases hr
  array h := by rw [hget] at h; cases h; cases hr

/-- The frame step: a line that neither touches the key, nor starts an array there, nor appends
to one there keeps the discipline of the key. -/
theorem frame {e : Nat × Option Line} {records' : Ledger Record}
    (h : WriteDiscipline o defer scope lines records key)
    (hget : records'.get? key = records.get? key)
    (htouch : touchedKey o defer (lines.foldl (declare defer) scope) e ≠ some key)
    (hadd : appendedBy key (lines.foldl (declare defer) scope) e = [])
    (hstart : startsArrayAt key e = false) :
    WriteDiscipline o defer scope (lines ++ [e]) records' key where
  text := fun {_ n _} hr => by
    obtain ⟨pre, l, post, rfl, hid, hwl, hnum, hkw, hn, hm, hv, hpre, hpost⟩ := h.text (hget ▸ hr)
    refine ⟨pre, l, post ++ [e], by simp, hid, hwl, hnum, hkw, hn, hm, hv, hpre, ?_⟩
    rw [touchedKeys_append, touchedKeys, touchedKeys, List.append_nil, ← foldl_declare_split]
    simp only [List.mem_append, not_or]
    exact ⟨hpost, fun he => htouch (by simpa using he)⟩
  array := fun {_ n _} hr => by
    obtain ⟨pre, l, post, rfl, hid, har, hkw, hn, hm, hlast, hitems⟩ := h.array (hget ▸ hr)
    refine ⟨pre, l, post ++ [e], by simp, hid, har, hkw, hn, hm,
      List.forall_mem_append.2 ⟨hlast, List.forall_mem_singleton.2 hstart⟩, ?_⟩
    rw [appendedAt_append, appendedAt, appendedAt, ← foldl_declare_split, hadd, hitems]
    simp

/-- A `wl` line on a free numeral writes a text that the discipline accounts for. -/
theorem text_written {n : Nat} {l : Line} (hfresh : key ∉ touchedKeys o defer scope lines)
    (hid : l.identifier = key) (hwl : Keyword.lookup? l.keyword = some .wl)
    (hnum : isNumeral l.identifier = true) (hn : n = l.number)
    (hm : reportedMissing defer (lines.foldl (declare defer) scope) l.content = []) :
    WriteDiscipline o defer scope (lines ++ [(n, some l)])
      (records.insert key (.text l.keyword l.number
        (substitute (lines.foldl (declare defer) scope).get? l.content).text)) key where
  text hr := by
    subst hn
    rw [Ledger.get?_insert_self] at hr
    cases hr
    exact ⟨lines, l, [], rfl, hid, hwl, hid ▸ hnum, rfl, rfl, hm, rfl, hfresh, by simp [touchedKeys]⟩
  array hr := by rw [Ledger.get?_insert_self] at hr; cases hr

/-- An `ar` line at the key starts an array that the discipline accounts for. -/
theorem array_started {n : Nat} {l : Line} (hid : l.identifier = key)
    (har : Keyword.lookup? l.keyword = some .ar) (hn : n = l.number)
    (hm : reportedMissing defer (lines.foldl (declare defer) scope) l.content = []) :
    WriteDiscipline o defer scope (lines ++ [(n, some l)])
      (records.insert key (.array "ar" l.number
        [(substitute (lines.foldl (declare defer) scope).get? l.content).text])) key where
  text hr := by rw [Ledger.get?_insert_self] at hr; cases hr
  array hr := by
    subst hn
    rw [Ledger.get?_insert_self] at hr
    cases hr
    exact ⟨lines, l, [], rfl, hid, har, rfl, rfl, hm, by simp, by simp [appendedAt]⟩

/-- An `ad` line at the key appends its content to the array there. -/
theorem array_appended {n : Nat} {m : Int} {l : Line} {kw : String} {items : List String}
    (h : WriteDiscipline o defer scope lines records key)
    (hget : records.get? key = some (.array kw m items)) (hid : l.identifier = key)
    (had : Keyword.lookup? l.keyword = some .ad) :
    WriteDiscipline o defer scope (lines ++ [(n, some l)])
      (records.insert key (.array kw m
        (items ++ [(substitute (lines.foldl (declare defer) scope).get? l.content).text]))) key where
  text hr := by rw [Ledger.get?_insert_self] at hr; cases hr
  array hr := by
    rw [Ledger.get?_insert_self] at hr
    cases hr
    have hadded : appendedBy key (lines.foldl (declare defer) scope) (n, some l) =
        [(substitute (lines.foldl (declare defer) scope).get? l.content).text] := by
      simp [appendedBy, hid, had]
    have hnostart : startsArrayAt key (n, some l) = false := by simp [startsArrayAt, had]
    obtain ⟨pre, l₀, post, rfl, hid₀, har, hkw, hn, hm, hlast, hitems⟩ := h.array hget
    refine ⟨pre, l₀, post ++ [(n, some l)], by simp, hid₀, har, hkw, hn, hm,
      List.forall_mem_append.2 ⟨hlast, List.forall_mem_singleton.2 hnostart⟩, ?_⟩
    rw [appendedAt_append, appendedAt, appendedAt, ← foldl_declare_split, hadded, hitems]
    simp

end WriteDiscipline

namespace Reading

variable {st : Reading} {scope : Ledger String} {lines : List (Nat × Option Line)}
  {key : String}

/-- The step lemma: one more kept line keeps the discipline of every key. -/
theorem WriteDiscipline.readEntry {e : Nat × Option Line} (hnum : ∀ l ∈ e.2, l.number = e.1)
    (h : WriteDiscipline o defer scope lines st.doc.content key)
    (hscope : st.scope = lines.foldl (declare defer) scope)
    (hkeys : key ∈ st.doc.content.keys ↔ key ∈ touchedKeys o defer scope lines) :
    WriteDiscipline o defer scope (lines ++ [e]) (st.readEntry o defer e).doc.content key := by
  rcases e with ⟨n, _ | l⟩
  · -- a line without fields stages a syntax error under its number
    by_cases hk : key = toString n
    · subst hk
      exact .of_value?_none (Ledger.get?_insert_self _ _ _) rfl
    · refine h.frame (Ledger.get?_insert_of_ne _ _ hk) ?_ rfl rfl
      exact fun he => hk (Option.some.inj he).symm
  · have hn : l.number = n := hnum l rfl
    -- a write at another identifier is framed out
    have hother : l.identifier ≠ key → ∀ r : Record,
        WriteDiscipline o defer scope (lines ++ [(n, some l)])
          (st.doc.content.insert l.identifier r) key := by
      intro hid r
      refine h.frame (Ledger.get?_insert_of_ne _ _ (Ne.symm hid)) (touchedKey_some_line hid) ?_ ?_
      · simp [appendedBy, hid]
      · simp [startsArrayAt, hid]
    -- an error or a command asks nothing of the lines, wherever it is written
    have hnovalue : ∀ r : Record, r.value? = none →
        WriteDiscipline o defer scope (lines ++ [(n, some l)])
          (st.doc.content.insert l.identifier r) key := by
      intro r hr
      by_cases hid : l.identifier = key
      · subst hid
        exact .of_value?_none (Ledger.get?_insert_self _ _ _) hr
      · exact hother hid r
    show WriteDiscipline o defer scope _ (st.readLine o defer l).doc.content key
    have heffect : Reading.LineEffect o defer st l (st.readLine o defer l).doc.content :=
      Reading.readLine_effect defer l
    generalize (st.readLine o defer l).doc.content = records' at heffect ⊢
    cases heffect with
    | passes hnone =>
      -- only declarations, names and passed-over `rm` lines touch nothing
      rw [hn] at hnone
      have hleave : leavesRecords o (Keyword.lookup? l.keyword) = true := by
        simp only [touchedKey] at hnone
        split at hnone
        · rename_i hcond
          exact (Bool.and_eq_true _ _ ▸ hcond).2
        · cases hnone
      have hnot : Keyword.lookup? l.keyword ≠ some .ad ∧ Keyword.lookup? l.keyword ≠ some .ar := by
        constructor <;> intro hk <;> simp [hk, leavesRecords] at hleave
      refine h.frame rfl (by rw [← hscope, hnone]; simp) ?_ ?_
      · simp [appendedBy, hnot.1]
      · simp [startsArrayAt, hnot.2]
    | error err => exact hnovalue _ rfl
    | command kw m v => exact hnovalue _ rfl
    | text hm hwl hfree hnumeral =>
      by_cases hid : l.identifier = key
      · subst hid
        have hfresh : l.identifier ∉ touchedKeys o defer scope lines := by
          rw [← hkeys, Ledger.mem_keys_iff]
          simpa [Ledger.contains] using hfree
        rw [hscope] at hm ⊢
        exact .text_written hfresh rfl hwl hnumeral hn.symm hm
      · exact hother hid _
    | start hm har =>
      by_cases hid : l.identifier = key
      · subst hid
        rw [hscope] at hm ⊢
        exact .array_started rfl har hn.symm hm
      · exact hother hid _
    | append kw m items hm had hget =>
      by_cases hid : l.identifier = key
      · subst hid
        rw [hscope]
        exact h.array_appended hget rfl had
      · exact hother hid _

/-- The run lemma: reading lines whose numbers are those of their fields, from a document with no
records, leaves every key under the discipline. -/
theorem foldl_readEntry_discipline (scope : Ledger String) (key : String) :
    ∀ lines : List (Nat × Option Line), (∀ e ∈ lines, ∀ l ∈ e.2, l.number = e.1) →
      WriteDiscipline o defer scope lines (lines.foldl (readEntry o defer) { scope }).doc.content key := by
  intro lines
  induction lines using List.reverseRecOn with
  | nil => exact fun _ => .empty
  | append_singleton lines e ih =>
    intro hnum
    have hscope : (lines.foldl (readEntry o defer) { scope }).scope =
        lines.foldl (declare defer) scope := foldl_readEntry_scope defer lines _
    have hkeys : key ∈ (lines.foldl (readEntry o defer) { scope }).doc.content.keys ↔
        key ∈ touchedKeys o defer scope lines := by
      rw [foldl_readEntry_keys defer lines _, List.mem_eraseDups]
      rfl
    rw [List.foldl_append, List.foldl_cons, List.foldl_nil]
    exact WriteDiscipline.readEntry (hnum e (by simp))
      (ih fun e' he' => hnum e' (List.mem_append_left _ he')) hscope hkeys

end Reading

/-- The kept lines of a source carry their own numbers. -/
theorem readLines_numbers (source : String) :
    ∀ e ∈ readLines source, ∀ l ∈ e.2, l.number = e.1 := by
  intro e he l hl
  obtain ⟨⟨n, t⟩, -, rfl⟩ := List.mem_map.1 he
  exact Line.number_of_parse? hl

/-- Every key of a document read from a source follows the write discipline: a text under it was
written by the first line that touched it, a `wl` line with a numeral for identifier, and no later
line touched it; an array under it holds the content of the last `ar` line at the key and then the
contents of the `ad` lines at the key after that line, in line order, and carries that `ar` line's
number. Each content is substituted in the scope that the declarations before its line leave. -/
theorem records_follow_write_discipline (o : ReadOptions) (scope : Ledger String) (source : String)
    (key : String) :
    WriteDiscipline o (defersParameters o (readLines source)) scope (readLines source)
      (Document.read o scope source).doc.content key :=
  Reading.foldl_readEntry_discipline scope key (readLines source) (readLines_numbers source)

end Colonnade
