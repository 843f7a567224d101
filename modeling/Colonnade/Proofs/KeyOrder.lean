import Colonnade.Proofs.Reading
import Colonnade.Proofs.Declarations
/-! # Keys in the order of their first touch

Each kept line touches one key or none, and a write keeps a present key in place and appends a new
one. So a document's keys are the keys its lines touch, each once, in the order of their first
touch (`keys_in_first_touch_order`).
-/
namespace Colonnade

/-! ## Erasing repeats -/

theorem eraseDups_of_nodup : ∀ {l : List String}, l.Nodup → l.eraseDups = l
  | [], _ => rfl
  | a :: as, h => by
    have ha : a ∉ as := (List.nodup_cons.1 h).1
    have hkeep : as.filter (fun b => !b == a) = as := by
      rw [List.filter_eq_self]
      intro b hb
      have hba : b ≠ a := fun e => ha (e ▸ hb)
      simpa using hba
    rw [List.eraseDups_cons, hkeep, eraseDups_of_nodup (List.nodup_cons.1 h).2]

/-- A key that is already there adds nothing when it comes again. -/
theorem eraseDups_append_cons_of_mem {ks rest : List String} {k : String} (hk : k ∈ ks) :
    (ks ++ k :: rest).eraseDups = (ks ++ rest).eraseDups := by
  have hdrop : (k :: rest).removeAll ks = rest.removeAll ks := by
    rw [List.cons_removeAll, if_neg (by simpa using hk)]
  rw [List.eraseDups_append, hdrop, ← List.eraseDups_append]

/-! ## The key a line touches -/

/-- Whether lines of a keyword, their content substituted with no missing name reported, leave the
records alone: declarations and names, and `rm` lines when the settings pass them over. -/
def leavesRecords (o : ReadOptions) : Option Keyword → Bool
  | some .dc | some .nm => true
  | some .rm => !o.removeFails
  | _ => false

/-- The key that a kept line touches, read against a scope. -/
def touchedKey (o : ReadOptions) (defer : Bool) (scope : Ledger String) :
    Nat × Option Line → Option String
  | (n, none) => some (toString n)
  | (_, some l) =>
    if (reportedMissing defer scope l.content).isEmpty &&
        leavesRecords o (Keyword.lookup? l.keyword) then none
    else some l.identifier

/-- The keys that kept lines touch, in line order, read from a scope on: declarations change the
scope as the lines go. -/
def touchedKeys (o : ReadOptions) (defer : Bool) :
    Ledger String → List (Nat × Option Line) → List String
  | _, [] => []
  | scope, e :: es =>
    (touchedKey o defer scope e).toList ++ touchedKeys o defer (declare defer scope e) es

namespace Reading

/-- What one step of reading does to the records: nothing when it touches no key, a write under
the key it touches otherwise. -/
def Writes (st st' : Reading) : Option String → Prop
  | none => st'.doc.content = st.doc.content
  | some k => ∃ r, st'.doc.content = st.doc.content.insert k r

variable {o : ReadOptions} {st : Reading}

theorem writes_put (key : String) (r : Record) : Writes st (st.put key r) (some key) := ⟨r, rfl⟩

theorem writes_stage (key keyword : String) (n : Nat) (message : String) (kind : ErrorKind) :
    Writes st (st.stage key keyword n message kind) (some key) := ⟨_, rfl⟩

theorem readArray_writes {k : Keyword} (hk : k.category = .array) (ident content : String)
    (n : Nat) :
    Writes st (st.readArray o k ident content n)
      (if leavesRecords o (some k) then none else some ident) := by
  cases k with
  | ar => exact writes_put _ _
  | ad =>
    simp only [readArray, leavesRecords, Bool.false_eq_true, ↓reduceIte]
    split
    · exact writes_put _ _
    · exact writes_stage _ _ _ _ _
  | rm =>
    unfold readArray
    cases hrm : o.removeFails
    · simp [leavesRecords, hrm, Writes]
    · simp only [leavesRecords, hrm, Bool.not_true, Bool.false_eq_true, ↓reduceIte]
      exact writes_stage _ _ _ _ _
  | _ => cases hk

/-- Outside the array keywords, only declarations and names leave the records alone. -/
theorem readOther_writes {k : Option Keyword} (hk : k ≠ some .rm) (name ident content : String)
    (n : Nat) (occupied : Bool) :
    Writes st (st.readOther o k name ident content n occupied)
      (if leavesRecords o k then none else some ident) := by
  unfold readOther
  split
  · rfl
  · rfl
  · rename_i hdc hnm
    -- neither a declaration nor a name, and not `rm`: the line touches its identifier
    have hwrite : leavesRecords o k = false := by
      cases k with
      | none => rfl
      | some k =>
        cases k with
        | nm => exact (hnm rfl).elim
        | dc => exact (hdc rfl).elim
        | rm => exact absurd rfl hk
        | _ => rfl
    simp only [hwrite, Bool.false_eq_true, ↓reduceIte]
    split
    · split
      · exact writes_stage _ _ _ _ _
      · exact writes_put _ _
    · exact writes_stage _ _ _ _ _

/-- The step lemma for a line with fields: it writes under its identifier unless it leaves the
records alone. -/
theorem readLine_writes (defer : Bool) (l : Line) :
    Writes st (st.readLine o defer l) (touchedKey o defer st.scope (l.number, some l)) := by
  unfold readLine touchedKey
  dsimp only
  rw [show (if defer = true then (substitute st.scope.get? l.content).missing.filter
      (fun m => !isParameterName m) else (substitute st.scope.get? l.content).missing) =
    reportedMissing defer st.scope l.content from rfl]
  split
  · -- a missing name stages an error under the identifier
    rename_i m rest hm
    rw [hm]
    exact writes_stage _ _ _ _ _
  · rename_i hm
    rw [hm, List.isEmpty_nil, Bool.true_and]
    split
    · -- a value line on a free identifier
      rename_i hwl
      have hk : Keyword.lookup? l.keyword = some .wl := by
        simp only [Bool.and_eq_true, beq_iff_eq] at hwl
        exact hwl.2
      have hleave : leavesRecords o (Keyword.lookup? l.keyword) = false := by rw [hk]; rfl
      simp only [hleave, Bool.false_eq_true, ↓reduceIte]
      split
      · exact writes_put _ _
      · exact writes_stage _ _ _ _ _
    · split
      · rename_i k hk
        rw [hk]
        split
        · rename_i harr
          exact readArray_writes (by simpa using harr) _ _ _
        · rename_i harr
          exact readOther_writes (by rintro ⟨⟩; simp [Keyword.category] at harr) _ _ _ _ _
      · rename_i hk
        rw [hk]
        exact readOther_writes (by simp) _ _ _ _ _

theorem readEntry_writes (defer : Bool) (e : Nat × Option Line) :
    Writes st (st.readEntry o defer e) (touchedKey o defer st.scope e) := by
  rcases e with ⟨n, _ | l⟩
  · exact writes_stage _ _ _ _ _
  · -- the number of a line with fields plays no part in what it touches
    exact readLine_writes defer l

theorem Writes.keys_none {st st' : Reading} (h : Writes st st' none) :
    st'.doc.content.keys = st.doc.content.keys :=
  congrArg Ledger.keys h

/-- A write keeps the keys in place and adds its key at the end, if it is new. -/
theorem Writes.keys_some {st st' : Reading} {k : String} (h : Writes st st' (some k)) :
    st'.doc.content.keys =
      if k ∈ st.doc.content.keys then st.doc.content.keys else st.doc.content.keys ++ [k] := by
  obtain ⟨r, hr⟩ := h
  exact (congrArg Ledger.keys hr).trans (Ledger.keys_insert _ _ _)

theorem Writes.keeps_key_places {st st' : Reading} {t : Option String} (h : Writes st st' t) :
    st.doc.content.keys <+: st'.doc.content.keys := by
  cases t with
  | none => exact h.keys_none ▸ List.prefix_refl _
  | some k =>
    rw [h.keys_some]
    split
    · exact List.prefix_refl _
    · exact List.prefix_append _ _

/-- The run lemma: after lines, the keys are those there before and those the lines touched, each
once, in the order of first appearance. -/
theorem foldl_readEntry_keys (defer : Bool) :
    ∀ (lines : List (Nat × Option Line)) (st : Reading),
      (lines.foldl (readEntry o defer) st).doc.content.keys =
        (st.doc.content.keys ++ touchedKeys o defer st.scope lines).eraseDups
  | [], st => by
    rw [List.foldl_nil, touchedKeys, List.append_nil]
    exact (eraseDups_of_nodup st.doc.content.nodup).symm
  | e :: rest, st => by
    rw [List.foldl_cons, foldl_readEntry_keys defer rest, touchedKeys, readEntry_scope]
    have hw := @readEntry_writes o st defer e
    cases ht : touchedKey o defer st.scope e with
    | none =>
      rw [ht] at hw
      rw [hw.keys_none]
      rfl
    | some k =>
      rw [ht] at hw
      rw [hw.keys_some, Option.toList_some, List.singleton_append]
      by_cases hk : k ∈ st.doc.content.keys
      · rw [if_pos hk, eraseDups_append_cons_of_mem hk]
      · rw [if_neg hk, List.append_assoc, List.singleton_append]

/-- The run lemma for places: the keys before some lines keep their places after them. -/
theorem foldl_keeps_key_places (defer : Bool) :
    ∀ (lines : List (Nat × Option Line)) (st : Reading),
      st.doc.content.keys <+: (lines.foldl (readEntry o defer) st).doc.content.keys
  | [], _ => List.prefix_refl _
  | e :: rest, _ =>
    (readEntry_writes defer e).keeps_key_places.trans (foldl_keeps_key_places defer rest _)

end Reading

/-- The keys of a document are the keys its lines touch, each once, in the order of their first
touch: a line without fields touches its number, a line with fields its identifier, except the
declarations, names and passed-over `rm` lines whose content substitutes with no missing name
reported. A key keeps its place from the line that first touched it on: the keys after the first
`i` lines stand at the start of the document's keys. -/
theorem keys_in_first_touch_order (o : ReadOptions) (scope : Ledger String) (source : String) :
    (Document.read o scope source).doc.content.keys =
        (touchedKeys o (defersParameters o (readLines source)) scope
          (readLines source)).eraseDups ∧
      ∀ i, (Document.readPrefix o scope source i).doc.content.keys <+:
        (Document.read o scope source).doc.content.keys := by
  refine ⟨?_, fun i => ?_⟩
  · exact Reading.foldl_readEntry_keys _ _ { scope }
  · rw [Document.read_eq_foldl_drop o scope source i]
    exact Reading.foldl_keeps_key_places _ _ _

end Colonnade
