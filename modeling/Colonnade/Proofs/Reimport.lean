import Mathlib
import Colonnade.Proofs.Exports
import Colonnade.Proofs.Declarations
/-! # Importing an export

An import of a reimportable source gives what its export gave (`import_reproduces_export`), by a
simulation between the reading at the export and the reading of the stripped source at the import:
the two documents agree up to line numbers once the export lines' keys are set aside
(`Reading.Reimports`). Without its conditions the import differs (`import_differs_from_export`).
-/
namespace Colonnade

open Colonnade.Text

/-! ## The texts of a stripped source -/

/-- The text that a piece of a source between line breaks gives, if the piece is kept. -/
def pieceText (piece : List Char) : Option String :=
  if 3 ≤ (Text.dropBlanksEnd (Text.dropBlanks piece)).length then
    some (String.ofList (Text.dropBlanksEnd (Text.dropBlanks piece)))
  else none

/-- The texts of the kept lines are those of the pieces between line breaks, numbers aside. -/
theorem numberedLines_texts (s : String) :
    (numberedLines s).map Prod.snd = (s.toList.splitOn '\n').filterMap pieceText := by
  unfold numberedLines
  rw [List.map_filterMap]
  conv_rhs => rw [← List.zipIdx_map_fst 1 (s.toList.splitOn '\n'), List.filterMap_map]
  apply List.filterMap_congr
  rintro ⟨piece, n⟩ -
  simp only [pieceText, Function.comp]
  split <;> rfl

/-- Whether a text is a line that exports by default, whatever its number. -/
def exportsByDefault (t : String) : Bool := (Line.parse? 0 t).any Line.isDefaultExport

theorem parse?_any_isDefaultExport (n : Nat) (t : String) :
    (Line.parse? n t).any Line.isDefaultExport = exportsByDefault t := by
  rw [exportsByDefault, Line.parse?_renumber n 0 t]
  cases Line.parse? 0 t <;> rfl

theorem zipIdx_fst_eq {l : List (List Char)} {a b : List Char} {n k : Nat}
    (ha : (a, n) ∈ l.zipIdx k) (hb : (b, n) ∈ l.zipIdx k) : a = b := by
  rw [(List.mem_zipIdx ha).2.2, (List.mem_zipIdx hb).2.2]

/-- Whether a piece of a source between line breaks is a line that exports by default: trimmed, it
has at least three characters and reads with keyword `ex` and content `default`. -/
def pieceExportsByDefault (piece : List Char) : Bool := (pieceText piece).any exportsByDefault

/-- Stripping a source drops the pieces between its line breaks that export by default and joins
the others again; a source with no such piece is kept as it is. -/
theorem stripDefaultExports_eq (s : String) :
    stripDefaultExports s =
      if (s.toList.splitOn '\n').any pieceExportsByDefault then
        String.ofList (['\n'].intercalate
          ((s.toList.splitOn '\n').filter fun p => !pieceExportsByDefault p))
      else s := by
  let pieces := s.toList.splitOn '\n'
  let skip := (readLines s).filterMap fun e =>
    if e.2.any Line.isDefaultExport then some e.1 else none
  -- a piece is skipped exactly when it exports by default
  have hskip : ∀ raw n, (raw, n) ∈ pieces.zipIdx 1 → (n ∈ skip ↔ pieceExportsByDefault raw = true) := by
    intro raw n hraw
    simp only [skip, readLines, List.filterMap_map, List.mem_filterMap, Function.comp,
      Option.ite_none_right_eq_some, Option.some.injEq, Prod.exists]
    constructor
    · rintro ⟨n', t, ht, hdef, rfl⟩
      obtain ⟨piece, hpiece, hlen, rfl⟩ := mem_numberedLines.1 ht
      rw [zipIdx_fst_eq hraw hpiece, pieceExportsByDefault, pieceText, if_pos hlen]
      simpa [parse?_any_isDefaultExport] using hdef
    · intro hdef
      unfold pieceExportsByDefault pieceText at hdef
      split at hdef
      · rename_i hlen
        refine ⟨n, _, mem_numberedLines.2 ⟨raw, hraw, hlen, rfl⟩, ?_, rfl⟩
        simpa [parse?_any_isDefaultExport] using hdef
      · cases hdef
  -- some number is skipped exactly when some piece exports by default
  have hany : (∃ n, n ∈ skip) ↔ pieces.any pieceExportsByDefault = true := by
    constructor
    · rintro ⟨n, hn⟩
      obtain ⟨e, he, hsome⟩ := List.mem_filterMap.1 hn
      obtain ⟨⟨n', t⟩, ht, rfl⟩ := List.mem_map.1 he
      obtain ⟨raw, hraw, -, -⟩ := mem_numberedLines.1 ht
      have hn' : n' = n := by
        simp only [Option.ite_none_right_eq_some, Option.some.injEq] at hsome
        exact hsome.2
      subst hn'
      exact List.any_eq_true.2 ⟨raw, List.fst_mem_of_mem_zipIdx hraw, (hskip raw n' hraw).1 hn⟩
    · intro h
      obtain ⟨raw, hraw, hdef⟩ := List.any_eq_true.1 h
      rw [← List.zipIdx_map_fst 1 pieces] at hraw
      obtain ⟨e, he, rfl⟩ := List.mem_map.1 hraw
      exact ⟨e.2, (hskip e.1 e.2 he).2 hdef⟩
  have hstrip : stripDefaultExports s =
      if skip.isEmpty then s
      else String.ofList (['\n'].intercalate ((pieces.zipIdx 1).filterMap fun e =>
        if e.2 ∈ skip then none else some e.1)) := rfl
  have hkept : ((pieces.zipIdx 1).filterMap fun e => if e.2 ∈ skip then none else some e.1) =
      pieces.filter fun raw => !pieceExportsByDefault raw := by
    have hcongr : ((pieces.zipIdx 1).filterMap fun e => if e.2 ∈ skip then none else some e.1) =
        (pieces.zipIdx 1).filterMap fun e =>
          if pieceExportsByDefault e.1 then none else some e.1 := by
      apply List.filterMap_congr
      intro e he
      rw [if_congr (hskip e.1 e.2 he) rfl rfl]
    rw [hcongr, ← List.filterMap_eq_filter]
    conv_rhs => rw [← List.zipIdx_map_fst 1 pieces]
    rw [List.filterMap_map]
    apply List.filterMap_congr
    intro e _
    by_cases h : pieceExportsByDefault e.1 = true <;> simp [h, Option.guard]
  rw [hstrip, hkept]
  by_cases h : pieces.any pieceExportsByDefault = true
  · obtain ⟨n, hn⟩ := hany.2 h
    rw [if_pos h, if_neg (fun he => List.not_mem_nil (List.isEmpty_iff.1 he ▸ hn))]
  · have he : skip.isEmpty = true :=
      List.isEmpty_iff.2 (List.eq_nil_iff_forall_not_mem.2 fun n hn => h (hany.1 ⟨n, hn⟩))
    rw [if_neg h, if_pos he]

/-- Stripping a source drops the texts of its lines that export by default and keeps the others in
order. -/
theorem numberedLines_strip_texts (s : String) :
    (numberedLines (stripDefaultExports s)).map Prod.snd =
      ((numberedLines s).map Prod.snd).filter fun t => !exportsByDefault t := by
  -- the kept pieces, read again, give the texts that do not export by default
  have htexts : ((s.toList.splitOn '\n').filter fun p => !pieceExportsByDefault p).filterMap
      pieceText = ((numberedLines s).map Prod.snd).filter fun t => !exportsByDefault t := by
    rw [numberedLines_texts, List.filterMap_filter, List.filter_filterMap]
    apply List.filterMap_congr
    intro raw _
    cases h : pieceText raw <;> simp [pieceExportsByDefault, h, Option.filter_some]
  rw [stripDefaultExports_eq]
  split
  · rw [numberedLines_texts, String.toList_ofList, ← htexts]
    by_cases hnil : ((s.toList.splitOn '\n').filter fun p => !pieceExportsByDefault p) = []
    · rw [hnil]
      rfl
    · have hsep : ∀ p ∈ (s.toList.splitOn '\n').filter fun p => !pieceExportsByDefault p,
          '\n' ∉ p := fun p hp => not_mem_of_mem_splitOn (List.mem_of_mem_filter hp)
      rw [List.splitOn_intercalate '\n' hsep hnil]
  · -- nothing exports by default: the source is kept whole
    rename_i hnone
    have hall : ((s.toList.splitOn '\n').filter fun p => !pieceExportsByDefault p) =
        s.toList.splitOn '\n' := List.filter_eq_self.2 (by simpa using hnone)
    rw [← htexts, hall, numberedLines_texts]

def Line.unnumbered (l : Line) : Line := { l with number := 0 }

theorem Line.number_of_parse? {n : Nat} {t : String} {l : Line} (h : Line.parse? n t = some l) :
    l.number = n := by
  unfold Line.parse? at h
  obtain ⟨_, _, rfl⟩ := Option.map_eq_some_iff.1 h
  rfl

theorem Line.parse?_unnumbered (n : Nat) (t : String) :
    (Line.parse? n t).map Line.unnumbered = Line.parse? 0 t := by
  rw [Line.parse?_renumber n 0 t, Option.map_map]
  cases h : Line.parse? 0 t with
  | none => rfl
  | some l =>
    have hl := Line.number_of_parse? h
    cases l
    simp_all [Line.unnumbered]

/-- The lines of a source, numbers forgotten, are read off the texts of its kept lines. -/
theorem readLines_unnumbered (s : String) :
    ((readLines s).filterMap (·.2)).map Line.unnumbered =
      ((numberedLines s).map Prod.snd).filterMap (Line.parse? 0) := by
  rw [readLines, List.filterMap_map, List.map_filterMap, List.filterMap_map]
  apply List.filterMap_congr
  rintro ⟨n, t⟩ -
  exact Line.parse?_unnumbered n t

/-- The lines of a stripped source are those of the source that do not export by default, in
order, numbered anew. -/
theorem strip_lines_unnumbered (s : String) :
    ((readLines (stripDefaultExports s)).filterMap (·.2)).map Line.unnumbered =
      (((readLines s).filterMap (·.2)).filter fun l => !l.isDefaultExport).map
        Line.unnumbered := by
  have hmap : (((readLines s).filterMap (·.2)).filter fun l => !l.isDefaultExport).map
      Line.unnumbered = (((readLines s).filterMap (·.2)).map Line.unnumbered).filter
        fun l => !l.isDefaultExport := by
    rw [List.filter_map]
    rfl
  rw [hmap, readLines_unnumbered, readLines_unnumbered, numberedLines_strip_texts,
    List.filterMap_filter, List.filter_filterMap]
  apply List.filterMap_congr
  intro t _
  unfold exportsByDefault
  cases Line.parse? 0 t <;> simp [Option.filter_some]

/-! ## Line breaks -/

/-- The content after the second colon holds no line break. -/
theorem Line.not_mem_contentOf {cs c : List Char} (h : Line.contentOf cs = some c) : '\n' ∉ c := by
  unfold Line.contentOf at h
  intro hn
  simp only at h
  split at h
  · split at h
    · rename_i r _
      split at h
      · cases h
      · rename_i hr
        cases h
        exact hr (by simpa using hn)
    · cases h
  · cases h
    contradiction

/-- What a field search gives is what its continuation gave on some split. -/
theorem Line.fieldThen_some {β : Type} {P : β → Prop} {k : List Char → List Char → Option β}
    (hk : ∀ a t b, k a t = some b → P b) :
    ∀ (acc cs : List Char) (b : β), Line.fieldThen k acc cs = some b → P b
  | _, [], _, h => by cases h
  | acc, c :: rest, b, h => by
    unfold Line.fieldThen at h
    rcases (Option.orElse_eq_some _ _ _).1 h with h | ⟨-, h⟩
    · split at h
      · exact hk _ _ _ h
      · cases h
    · split at h
      · cases h
      · exact Line.fieldThen_some hk _ rest b h

theorem Line.content_no_break {n : Nat} {t : String} {l : Line} (h : Line.parse? n t = some l) :
    '\n' ∉ l.content.toList := by
  obtain ⟨⟨i, k, c⟩, hf, rfl⟩ := Option.map_eq_some_iff.1 h
  simp only [String.toList_ofList]
  -- the content is what the search for the keyword hands to `contentOf`
  refine Line.fieldThen_some (P := fun b : List Char × List Char × List Char => '\n' ∉ b.2.2)
    (fun a t b hb => ?_) _ _ _ hf
  refine Line.fieldThen_some (P := fun b : List Char × List Char × List Char => '\n' ∉ b.2.2)
    (fun a' t' b' hb' => ?_) _ _ _ hb
  obtain ⟨c', hc', rfl⟩ := Option.map_eq_some_iff.1 hb'
  exact Line.not_mem_contentOf hc'

/-! ## Substitution reads only the variables a text names -/

/-- The variables a text names: each `$` followed by a name, in order, with repeats. -/
def namedVariables (s : String) : List String := (substitute (fun _ => none) s).missing

-- The variables that characters name are what substituting them with no values leaves missing;
-- the three lemmas below read them off the first character.

/-- A `$` without a name after it names no variable. -/
theorem named_dollar_of_empty {rest : List Char}
    (h : (rest.takeWhile isNameChar).isEmpty = true) :
    (substituteChars (fun _ => none) ('$' :: rest)).2 =
      (substituteChars (fun _ => none) rest).2 := by
  rw [substituteChars, if_pos rfl]
  simp only [h, if_true]

/-- A `$` followed by a name names that variable, then those the text after the name names. -/
theorem named_dollar_of_name {rest : List Char}
    (h : (rest.takeWhile isNameChar).isEmpty = false) :
    (substituteChars (fun _ => none) ('$' :: rest)).2 =
      String.ofList (rest.takeWhile isNameChar) ::
        (substituteChars (fun _ => none) (rest.dropWhile isNameChar)).2 := by
  rw [substituteChars, if_pos rfl]
  simp only [h, Bool.false_eq_true, if_false]

theorem named_of_ne_dollar {c : Char} {rest : List Char} (h : ¬c = '$') :
    (substituteChars (fun _ => none) (c :: rest)).2 =
      (substituteChars (fun _ => none) rest).2 := by
  rw [substituteChars, if_neg h]

theorem substituteChars_congr {f g : String → Option String} (cs : List Char)
    (h : ∀ x ∈ (substituteChars (fun _ => none) cs).2, f x = g x) :
    substituteChars f cs = substituteChars g cs := by
  fun_induction substituteChars f cs with
  | case1 => rw [substituteChars]
  | case2 rest name hname r ih =>
    rw [named_dollar_of_empty hname] at h
    rw [substituteChars, if_pos rfl, if_pos hname]
    simp only [r, ih h]
  | case3 rest name hname r v hv ih =>
    rw [named_dollar_of_name (Bool.eq_false_iff.2 hname), List.forall_mem_cons] at h
    rw [substituteChars, if_pos rfl, if_neg hname]
    simp only [r, name, ← h.1, hv, ih h.2]
  | case4 rest name hname r hv ih =>
    rw [named_dollar_of_name (Bool.eq_false_iff.2 hname), List.forall_mem_cons] at h
    rw [substituteChars, if_pos rfl, if_neg hname]
    simp only [r, name, ← h.1, hv, ih h.2]
  | case5 c rest hc r ih =>
    rw [named_of_ne_dollar hc] at h
    rw [substituteChars, if_neg hc]
    simp only [r, ih h]

theorem substituteChars_missing_eq_nil {f : String → Option String} (cs : List Char)
    (h : ∀ x ∈ (substituteChars (fun _ => none) cs).2, (f x).isSome) :
    (substituteChars f cs).2 = [] := by
  fun_induction substituteChars f cs with
  | case1 => rfl
  | case2 rest name hname r ih => exact ih (named_dollar_of_empty hname ▸ h)
  | case3 rest name hname r v hv ih =>
    rw [named_dollar_of_name (Bool.eq_false_iff.2 hname), List.forall_mem_cons] at h
    exact ih h.2
  | case4 rest name hname r hv ih =>
    -- the name has no value, yet every named variable has one
    rw [named_dollar_of_name (Bool.eq_false_iff.2 hname), List.forall_mem_cons] at h
    have hsome := h.1
    simp only [name] at hv
    simp [hv] at hsome
  | case5 c rest hc r ih => exact ih (named_of_ne_dollar hc ▸ h)

/-- Two scopes that agree on the variables a text names substitute it alike. -/
theorem substitute_congr {f g : String → Option String} {s : String}
    (h : ∀ x ∈ namedVariables s, f x = g x) : substitute f s = substitute g s := by
  unfold substitute
  rw [substituteChars_congr s.toList h]

/-- A scope that holds every variable a text names leaves none missing. -/
theorem substitute_missing_eq_nil {f : String → Option String} {s : String}
    (h : ∀ x ∈ namedVariables s, (f x).isSome) : (substitute f s).missing = [] :=
  substituteChars_missing_eq_nil s.toList h

theorem substituteChars_not_mem {f : String → Option String} {c : Char} (cs : List Char)
    (hc : c ∉ cs)
    (hv : ∀ x ∈ (substituteChars (fun _ => none) cs).2, ∀ v, f x = some v → c ∉ v.toList) :
    c ∉ (substituteChars f cs).1 := by
  fun_induction substituteChars f cs with
  | case1 => simp
  | case2 rest name hname r ih =>
    rw [named_dollar_of_empty hname] at hv
    simp only [r, List.mem_cons, not_or] at hc ⊢
    exact ⟨hc.1, ih hc.2 hv⟩
  | case3 rest name hname r v hv' ih =>
    rw [named_dollar_of_name (Bool.eq_false_iff.2 hname), List.forall_mem_cons] at hv
    have hrest : c ∉ rest.dropWhile isNameChar := fun h =>
      hc (List.mem_cons_of_mem _ ((List.dropWhile_suffix isNameChar).subset h))
    simp only [r, List.mem_append, not_or]
    exact ⟨hv.1 v hv', ih hrest hv.2⟩
  | case4 rest name hname r hv' ih =>
    -- a name without a value stays as written
    rw [named_dollar_of_name (Bool.eq_false_iff.2 hname), List.forall_mem_cons] at hv
    have hrest : c ∉ rest.dropWhile isNameChar := fun h =>
      hc (List.mem_cons_of_mem _ ((List.dropWhile_suffix isNameChar).subset h))
    have hname' : c ∉ name := fun h =>
      hc (List.mem_cons_of_mem _ ((List.takeWhile_prefix isNameChar).subset h))
    simp only [r, List.cons_append, List.mem_cons, List.mem_append, not_or] at hc ⊢
    exact ⟨hc.1, hname', ih hrest hv.2⟩
  | case5 c' rest hc' r ih =>
    rw [named_of_ne_dollar hc'] at hv
    simp only [r, List.mem_cons, not_or] at hc ⊢
    exact ⟨hc.1, ih hc.2 hv⟩

/-- A character that neither a text nor the values of the variables it names hold is not in its
substitution. -/
theorem substitute_not_mem {f : String → Option String} {s : String} {c : Char}
    (hc : c ∉ s.toList) (hv : ∀ x ∈ namedVariables s, ∀ v, f x = some v → c ∉ v.toList) :
    c ∉ (substitute f s).text.toList := by
  simpa [substitute] using substituteChars_not_mem s.toList hc hv

/-! ## Records up to line numbers -/

/-- A record with its line forgotten, and with it the message of an error, which names the line. -/
def Record.unnumbered : Record → Record
  | .text kw _ v => .text kw 0 v
  | .array kw _ items => .array kw 0 items
  | .error e => .error { e with line := 0, message := "" }
  | .command kw _ v => .command kw 0 v

@[simp] theorem Record.value?_unnumbered (r : Record) : r.unnumbered.value? = r.value? := by
  cases r <;> rfl

theorem Record.error?_unnumbered_eq_none {r : Record} :
    r.unnumbered.error? = none ↔ r.error? = none := by
  cases r <;> simp [unnumbered, error?]

/-- The records of a reading under the keys outside `X`, in order, their lines forgotten. -/
def Reading.view (X : List String) (st : Reading) : List (String × Record) :=
  (st.doc.content.entries.filter fun e => e.1 ∉ X).map fun e => (e.1, e.2.unnumbered)

namespace Reading

variable {X : List String}

theorem view_put_of_not_mem {key : String} (hk : key ∉ X) (st : Reading) (r : Record) :
    (st.put key r).view X = Ledger.upsert key r.unnumbered (st.view X) := by
  unfold view put
  simp only [Ledger.insert]
  rw [@Ledger.upsert_filter_of_pos _ (fun k => decide (k ∉ X)) key (by simpa using hk),
    Ledger.upsert_map]

theorem view_put_of_mem {key : String} (hk : key ∈ X) (st : Reading) (r : Record) :
    (st.put key r).view X = st.view X := by
  unfold view put
  simp only [Ledger.insert]
  rw [@Ledger.upsert_filter_of_neg _ (fun k => decide (k ∉ X)) key (by simpa using hk)]

theorem lookup_filter_unnumbered {key : String} (hk : key ∉ X) (es : List (String × Record)) :
    ((es.filter fun e => e.1 ∉ X).map fun e => (e.1, e.2.unnumbered)).lookup key =
      (es.lookup key).map Record.unnumbered := by
  induction es with
  | nil => rfl
  | cons e es ih =>
    obtain ⟨a, b⟩ := e
    by_cases ha : a ∈ X
    · -- an entry under `X` is set aside, and its key is not the one looked up
      have hne : (key == a) = false := beq_false_of_ne fun h => hk (h ▸ ha)
      rw [List.filter_cons_of_neg (by simpa using ha), ih, List.lookup_cons, hne]
    · rw [List.filter_cons_of_pos (by simpa using ha), List.map_cons, List.lookup_cons,
        List.lookup_cons, ih]
      cases key == a <;> rfl

/-- Under a key outside `X`, the view finds the record of the reading, line forgotten. -/
theorem lookup_view {key : String} (hk : key ∉ X) (st : Reading) :
    (st.view X).lookup key = (st.doc.content.get? key).map Record.unnumbered :=
  lookup_filter_unnumbered hk st.doc.content.entries

/-- How the reading of an exporting source stands to the reading of its stripped source at an
import, `X` being the identifiers of its export lines and `D` the variables declared so far: the
two scopes agree on `D`, and the first holds them all; the records agree up to line numbers
outside `X`, where the second holds none; under `X` the first holds records without a value,
among them the only commands it has, all exports by default; and the first reading's name and
the values it holds in `D` have no line break, as texts read off lines. -/
structure Reimports (X D : List String) (stE stI : Reading) : Prop where
  scope : ∀ x ∈ D, (stE.scope.get? x).isSome ∧ stI.scope.get? x = stE.scope.get? x
  view : stI.view [] = stE.view X
  exportKeys : ∀ e ∈ stE.doc.content.entries, e.1 ∈ X → e.2.value? = none
  commands : ∀ e ∈ stE.doc.content.entries, ∀ kw n c, e.2 = .command kw n c →
    e.1 ∈ X ∧ kw = "ex" ∧ c = exportDefault
  nameUnbroken : '\n' ∉ stE.doc.name.toList
  declaredUnbroken : ∀ x ∈ D, ∀ v, stE.scope.get? x = some v → '\n' ∉ v.toList

namespace Reimports

variable {D : List String} {stE stI : Reading}

/-- Both readings file records that agree up to line numbers under a key outside `X`. -/
theorem put (h : Reimports X D stE stI) {key : String} (hk : key ∉ X) {rE rI : Record}
    (hr : rE.unnumbered = rI.unnumbered) (hc : ∀ kw n c, rE ≠ .command kw n c) :
    Reimports X D (stE.put key rE) (stI.put key rI) where
  scope := h.scope
  view := by
    rw [view_put_of_not_mem List.not_mem_nil, view_put_of_not_mem hk, h.view, hr]
  exportKeys := by
    intro e he heX
    rcases Ledger.mem_upsert he with rfl | he
    · exact absurd heX hk
    · exact h.exportKeys e he heX
  commands := by
    intro e he kw n c hce
    rcases Ledger.mem_upsert he with rfl | he
    · exact absurd hce (hc kw n c)
    · exact h.commands e he kw n c hce
  nameUnbroken := h.nameUnbroken
  declaredUnbroken := h.declaredUnbroken

theorem stage (h : Reimports X D stE stI) {key : String} (hk : key ∉ X) (keyword : String)
    (nE nI : Nat) (mE mI : String) (kind : ErrorKind) :
    Reimports X D (stE.stage key keyword nE mE kind) (stI.stage key keyword nI mI kind) :=
  h.put hk rfl (fun _ _ _ => Record.noConfusion)

/-- The first reading files, under a key of `X`, a record without a value that is at most an
export by default. -/
theorem putExport (h : Reimports X D stE stI) {key : String} (hk : key ∈ X) {r : Record}
    (hr : r.value? = none) (hc : ∀ kw n c, r = .command kw n c → kw = "ex" ∧ c = exportDefault) :
    Reimports X D (stE.put key r) stI where
  scope := h.scope
  view := by rw [view_put_of_mem hk, h.view]
  exportKeys := by
    intro e he heX
    rcases Ledger.mem_upsert he with rfl | he
    · exact hr
    · exact h.exportKeys e he heX
  commands := by
    intro e he kw n c hce
    rcases Ledger.mem_upsert he with rfl | he
    · exact ⟨hk, hc kw n c hce⟩
    · exact h.commands e he kw n c hce
  nameUnbroken := h.nameUnbroken
  declaredUnbroken := h.declaredUnbroken

/-- Both readings declare a variable with one value, a text without line breaks. -/
theorem declare (h : Reimports X D stE stI) (x : String) {v : String} (hv : '\n' ∉ v.toList) :
    Reimports X (x :: D) { stE with scope := stE.scope.insert x v }
      { stI with scope := stI.scope.insert x v } where
  scope := by
    intro y hy
    by_cases hyx : y = x
    · subst hyx
      simp
    · rw [Ledger.get?_insert_of_ne _ _ hyx, Ledger.get?_insert_of_ne _ _ hyx]
      exact h.scope y (List.mem_of_ne_of_mem hyx hy)
  view := h.view
  exportKeys := h.exportKeys
  commands := h.commands
  nameUnbroken := h.nameUnbroken
  declaredUnbroken := by
    intro y hy w hw
    by_cases hyx : y = x
    · subst hyx
      rw [Ledger.get?_insert_self, Option.some.injEq] at hw
      exact hw ▸ hv
    · rw [Ledger.get?_insert_of_ne _ _ hyx] at hw
      exact h.declaredUnbroken y (List.mem_of_ne_of_mem hyx hy) w hw

/-- Both readings name their documents, the first with a text without line breaks. -/
theorem rename (h : Reimports X D stE stI) {a : String} (ha : '\n' ∉ a.toList) (b : String) :
    Reimports X D { stE with doc := { stE.doc with name := a } }
      { stI with doc := { stI.doc with name := b } } where
  scope := h.scope
  view := h.view
  exportKeys := h.exportKeys
  commands := h.commands
  nameUnbroken := ha
  declaredUnbroken := h.declaredUnbroken

/-- Under a key outside `X` the two readings hold records that agree up to line numbers. -/
theorem get?_unnumbered (h : Reimports X D stE stI) {key : String} (hk : key ∉ X) :
    (stI.doc.content.get? key).map Record.unnumbered =
      (stE.doc.content.get? key).map Record.unnumbered := by
  rw [← lookup_view List.not_mem_nil, ← lookup_view hk, h.view]

theorem contains_eq (h : Reimports X D stE stI) {key : String} (hk : key ∉ X) :
    stI.doc.content.contains key = stE.doc.content.contains key := by
  have hget := congrArg Option.isSome (h.get?_unnumbered hk)
  simpa [Ledger.contains] using hget

end Reimports

end Reading

/-! ## One line in both readings -/

/-- Whether each line names only variables declared before it: in `declared`, or by a `dc` line
earlier in the list. -/
def declaresBeforeUse (declared : List String) : List Line → Bool
  | [] => true
  | l :: ls => (namedVariables l.content).all declared.contains &&
      declaresBeforeUse (if l.keyword = "dc" then l.identifier :: declared else declared) ls

theorem Keyword.lookup?_text (k : Keyword) : Keyword.lookup? k.text = some k := by
  cases k <;> rfl

theorem Keyword.some_beq_some (k k' : Keyword) : (some k == some k') = decide (k = k') := by
  cases k <;> cases k' <;> rfl

theorem Keyword.text_of_ofText? {s : String} {k : Keyword} (h : Keyword.ofText? s = some k) :
    k.text = s := by
  simpa using List.find?_some h

/-- The keyword that a spelling names is the one spelled so. -/
theorem Keyword.eq_of_ofText? {s : String} {k k' : Keyword} (h : Keyword.ofText? s = some k)
    (hs : s = k'.text) : k = k' := by
  rw [hs, Keyword.ofText?_text] at h
  exact (Option.some.inj h).symm

theorem Keyword.category_eq_command {k : Keyword} : k.category = .command ↔ k = .im ∨ k = .ex := by
  cases k <;> simp [Keyword.category]

namespace Reading.Reimports

variable {X D : List String} {stE stI : Reading}

/-- Both readings read an array line outside `X` alike. -/
theorem readArray (h : Reimports X D stE stI) {oE oI : ReadOptions}
    (hrm : oE.removeFails = oI.removeFails) (k : Keyword) {ident : String} (hk : ident ∉ X)
    (content : String) (nE nI : Nat) :
    Reimports X D (Reading.readArray oE stE k ident content nE)
      (Reading.readArray oI stI k ident content nI) := by
  cases k with
  | ar => exact h.put hk rfl (fun _ _ _ => Record.noConfusion)
  | ad =>
    -- the two readings find the same array there, lines aside, or neither finds one
    have hget := h.get?_unnumbered hk
    simp only [Reading.readArray]
    rcases hE : stE.doc.content.get? ident with _ | (_ | ⟨kwE, mE, itE⟩ | _ | _) <;>
    rcases hI : stI.doc.content.get? ident with _ | (_ | ⟨kwI, mI, itI⟩ | _ | _) <;>
    rw [hE, hI] at hget <;> simp [Record.unnumbered] at hget
    case some.array.some.array =>
      obtain ⟨rfl, rfl⟩ := hget
      exact h.put hk rfl (fun _ _ _ => Record.noConfusion)
    all_goals exact h.stage hk _ _ _ _ _ _
  | rm =>
    simp only [Reading.readArray, ← hrm]
    split
    · exact h.stage hk _ _ _ _ _ _
    · exact h
  | nm | dc | wl | im | ex => exact h

/-- Both readings read a line that is not a command alike, the second under another number,
when the variables it names are declared: outside `X` they file records that agree up to line
numbers, and a declaration declares one value in both. -/
theorem readLine (h : Reimports X D stE stI) {oE oI : ReadOptions}
    (hreg : oE.registered = oI.registered) (hrm : oE.removeFails = oI.removeFails)
    (dE dI : Bool) {l j : Line} (hj : j.unnumbered = l.unnumbered) {k : Keyword}
    (hk : Keyword.ofText? l.keyword = some k) (hkc : k.category ≠ .command)
    (hX : l.identifier ∈ X → k = .dc ∨ k = .nm) (hbreak : '\n' ∉ l.content.toList)
    (hdecl : ∀ x ∈ namedVariables l.content, x ∈ D) :
    Reimports X (if k = .dc then l.identifier :: D else D) (stE.readLine oE dE l)
      (stI.readLine oI dI j) := by
  have hid : j.identifier = l.identifier := (congrArg Line.identifier hj :)
  have hkw : j.keyword = l.keyword := (congrArg Line.keyword hj :)
  have hct : j.content = l.content := (congrArg Line.content hj :)
  have hlookup : Keyword.lookup? l.keyword = some k := by
    rw [← Keyword.text_of_ofText? hk, Keyword.lookup?_text]
  -- both substitute the content alike, with nothing missing
  have hsub : substitute stI.scope.get? j.content = substitute stE.scope.get? l.content := by
    rw [hct]
    exact substitute_congr fun x hx => (h.scope x (hdecl x hx)).2
  have hmiss : (substitute stE.scope.get? l.content).missing = [] :=
    substitute_missing_eq_nil fun x hx => (h.scope x (hdecl x hx)).1
  -- what a name or a declaration takes has no line break
  have htext : '\n' ∉ (substitute stE.scope.get? l.content).text.toList :=
    substitute_not_mem hbreak fun x hx => h.declaredUnbroken x (hdecl x hx)
  unfold Reading.readLine
  simp only [hsub, hmiss, hid, hkw, hlookup, List.filter_nil, ite_self]
  cases k with
  | nm =>
    have hw : (some Keyword.nm == some Keyword.wl) = false := by decide
    have hc : (Keyword.nm.category == .array) = false := by decide
    simp only [hw, hc, Bool.and_false, Bool.false_eq_true, if_false, readOther]
    exact h.rename htext _
  | dc =>
    have hw : (some Keyword.dc == some Keyword.wl) = false := by decide
    have hc : (Keyword.dc.category == .array) = false := by decide
    simp only [hw, hc, Bool.and_false, Bool.false_eq_true, if_false, if_true, readOther]
    exact h.declare _ htext
  | wl =>
    have hident : l.identifier ∉ X := fun hmem => by simpa using hX hmem
    have hw : (some Keyword.wl == some Keyword.wl) = true := by decide
    rw [h.contains_eq hident]
    simp +decide only [hw, Bool.and_true, if_false, readOther, Keyword.some_beq_some,
      decide_false, Bool.false_or, ← hreg]
    cases hocc : stE.doc.content.contains l.identifier
    · -- a free identifier takes the value, or is refused when it is not a numeral
      simp only [Bool.not_false, if_true]
      split
      · exact h.put hident rfl (fun _ _ _ => Record.noConfusion)
      · exact h.stage hident _ _ _ _ _ _
    · -- a taken identifier is refused, as taken or as an unknown keyword
      simp only [Bool.not_true, Bool.false_eq_true, if_false, if_true]
      split <;> exact h.stage hident _ _ _ _ _ _
  | ar | ad | rm =>
    have hident : l.identifier ∉ X := fun hmem => by simpa using hX hmem
    simp +decide only [Keyword.some_beq_some, decide_false, Bool.and_false, Bool.false_eq_true,
      if_false, if_true]
    exact h.readArray hrm _ hident _ _ _
  | im | ex => exact absurd rfl hkc

/-- The first reading reads an export line under a key of `X`, filing the export there, or an
error when the key is taken; the second reading has no such line. -/
theorem readLine_export (h : Reimports X D stE stI) {o : ReadOptions} (d : Bool) {l : Line}
    (hex : l.keyword = "ex") (hc : l.content = exportDefault) (hX : l.identifier ∈ X) :
    Reimports X D (stE.readLine o d l) stI := by
  have hsub : substitute stE.scope.get? l.content = ⟨exportDefault, []⟩ := by
    rw [hc]
    exact substitute_of_no_dollar _ (by decide)
  have hlookup : Keyword.lookup? l.keyword = some .ex := by
    rw [hex]
    exact Keyword.lookup?_text .ex
  unfold Reading.readLine
  simp +decide only [hsub, hlookup, List.filter_nil, ite_self, Keyword.some_beq_some,
    decide_false, Bool.and_false, Bool.false_eq_true, if_false, readOther, decide_true,
    Bool.false_or, Bool.true_or, if_true]
  split
  · exact h.putExport hX rfl (fun _ _ _ => Record.noConfusion)
  · exact h.putExport hX rfl fun kw n c hce => by
      cases hce
      exact ⟨hex, rfl⟩

/-- The run lemma: reading the lines of an exporting source, and reading the same lines without
the export lines and under other numbers, keeps the two readings related. -/
theorem foldl_readLine {oE oI : ReadOptions} (hreg : oE.registered = oI.registered)
    (hrm : oE.removeFails = oI.removeFails) (dE dI : Bool) :
    ∀ (ls js : List Line) (D : List String) (stE stI : Reading), Reimports X D stE stI →
      (∀ l ∈ ls, ∃ k, Keyword.ofText? l.keyword = some k ∧ k ≠ .im) →
      (∀ l ∈ ls, l.keyword = "ex" → l.content = exportDefault ∧ l.identifier ∈ X) →
      (∀ l ∈ ls, l.keyword ≠ "ex" → l.identifier ∈ X → l.keyword = "dc" ∨ l.keyword = "nm") →
      (∀ l ∈ ls, '\n' ∉ l.content.toList) → declaresBeforeUse D ls = true →
      js.map Line.unnumbered = (ls.filter fun l => !l.isDefaultExport).map Line.unnumbered →
      ∃ D', Reimports X D' (ls.foldl (fun st l => st.readLine oE dE l) stE)
        (js.foldl (fun st l => st.readLine oI dI l) stI)
  | [], js, D, _, _, h, _, _, _, _, _, hjs => by
    rw [List.filter_nil, List.map_nil, List.map_eq_nil_iff] at hjs
    subst hjs
    exact ⟨D, h⟩
  | l :: ls, js, D, stE, stI, h, hkw, hex, hX, hbreak, hdecl, hjs => by
    simp only [declaresBeforeUse, Bool.and_eq_true, List.all_eq_true] at hdecl
    have hkw' := fun l' hl' => hkw l' (List.mem_cons_of_mem l hl')
    have hex' := fun l' hl' => hex l' (List.mem_cons_of_mem l hl')
    have hX' := fun l' hl' => hX l' (List.mem_cons_of_mem l hl')
    have hbreak' := fun l' hl' => hbreak l' (List.mem_cons_of_mem l hl')
    by_cases hl : l.keyword = "ex"
    · -- an export line: only the first reading reads it
      obtain ⟨hc, hlX⟩ := hex l List.mem_cons_self hl
      have hdef : l.isDefaultExport = true := by simp [Line.isDefaultExport, hl, hc]
      rw [List.filter_cons_of_neg (by simp [hdef])] at hjs
      have hdc : (if l.keyword = "dc" then l.identifier :: D else D) = D := by simp [hl]
      rw [hdc] at hdecl
      exact foldl_readLine hreg hrm dE dI ls js D _ stI (h.readLine_export dE hl hc hlX) hkw'
        hex' hX' hbreak' hdecl.2 hjs
    · -- any other line: both readings read it
      obtain ⟨k, hk, hkim⟩ := hkw l List.mem_cons_self
      have hdef : l.isDefaultExport = false := by simp [Line.isDefaultExport, hl]
      rw [List.filter_cons_of_pos (by simp [hdef]), List.map_cons, List.map_eq_cons_iff] at hjs
      obtain ⟨j, js', rfl, hj, hjs'⟩ := hjs
      have htext := Keyword.text_of_ofText? hk
      have hkc : k.category ≠ .command := by
        rw [Ne, Keyword.category_eq_command]
        rintro (rfl | rfl)
        · exact hkim rfl
        · exact hl htext.symm
      have hkX : l.identifier ∈ X → k = .dc ∨ k = .nm := by
        intro hmem
        rcases hX l List.mem_cons_self hl hmem with hdc | hnm
        · exact .inl (Keyword.eq_of_ofText? hk hdc)
        · exact .inr (Keyword.eq_of_ofText? hk hnm)
      -- the keyword is `dc` just when the line spells it so
      have hiff : k = .dc ↔ l.keyword = "dc" :=
        ⟨fun hd => by subst hd; exact htext.symm, fun hd => Keyword.eq_of_ofText? hk hd⟩
      have hdc : (if k = .dc then l.identifier :: D else D) =
          if l.keyword = "dc" then l.identifier :: D else D := by
        simp only [hiff]
      have hstep := h.readLine hreg hrm dE dI hj hk hkc hkX (hbreak l List.mem_cons_self)
        (fun x hx => by simpa using hdecl.1 x hx)
      rw [hdc] at hstep
      exact foldl_readLine hreg hrm dE dI ls js' _ _ _ hstep hkw' hex' hX' hbreak' hdecl.2 hjs'

theorem mem_values {key : String} {r : Record} {st : Reading}
    (h : (key, r) ∈ st.doc.content.entries) : r ∈ st.doc.content.values :=
  List.mem_map.2 ⟨_, h, rfl⟩

/-- A record of the second reading agrees, up to line numbers, with one of the first outside
`X`. -/
theorem exists_of_mem (h : Reimports X D stE stI) {r : Record}
    (hr : r ∈ stI.doc.content.values) :
    ∃ e ∈ stE.doc.content.entries, e.1 ∉ X ∧ e.2.unnumbered = r.unnumbered := by
  obtain ⟨⟨key, r'⟩, hmem, rfl⟩ := List.mem_map.1 hr
  have hview : (key, r'.unnumbered) ∈ stE.view X := by
    rw [← h.view]
    exact List.mem_map.2 ⟨(key, r'), List.mem_filter.2 ⟨hmem, by simp⟩, rfl⟩
  obtain ⟨e, he, hke⟩ := List.mem_map.1 hview
  obtain ⟨he, heX⟩ := List.mem_filter.1 he
  obtain ⟨rfl, hre⟩ := Prod.mk.inj hke
  exact ⟨e, he, by simpa using heX, hre⟩

theorem values_eq (h : Reimports X D stE stI) : stI.doc.values = stE.doc.values := by
  have hI : stI.doc.values = ((stI.view []).map Prod.snd).filterMap Record.value? := by
    simp [Document.values, Reading.view, Ledger.values, List.filterMap_map]
  -- the records under `X` have no value
  have hE : ((stE.view X).map Prod.snd).filterMap Record.value? = stE.doc.values := by
    simp only [Document.values, Reading.view, Ledger.values, List.map_map, List.filterMap_map,
      List.filterMap_filter]
    apply List.filterMap_congr
    intro e he
    by_cases heX : e.1 ∈ X
    · simp [heX, h.exportKeys e he heX]
    · simp [heX]
  rw [hI, h.view, hE]

/-- With no error in the first reading, the second has none. -/
theorem errors_eq_nil (h : Reimports X D stE stI) (hE : stE.doc.errors = []) :
    stI.doc.errors = [] := by
  rw [Document.errors, List.filterMap_eq_nil_iff]
  intro r hr
  obtain ⟨e, he, -, hre⟩ := h.exists_of_mem hr
  have he' : e.2.error? = none :=
    List.filterMap_eq_nil_iff.1 hE e.2
      (mem_values (show (e.1, e.2) ∈ stE.doc.content.entries from he))
  rw [← Record.error?_unnumbered_eq_none, ← hre, Record.error?_unnumbered_eq_none]
  exact he'

theorem not_command (h : Reimports X D stE stI) {r : Record} (hr : r ∈ stI.doc.content.values)
    (kw : String) (n : Int) (c : String) : r ≠ .command kw n c := by
  rintro rfl
  obtain ⟨e, he, heX, hre⟩ := h.exists_of_mem hr
  obtain ⟨key, _ | _ | _ | ⟨kw', n', c'⟩⟩ := e <;> simp [Record.unnumbered] at hre
  obtain ⟨rfl, rfl⟩ := hre
  exact heX (h.commands _ he _ _ _ rfl).1

end Reading.Reimports

/-! ## The runs of an export and of its import -/

/-- The lines of a source that have their fields, in order. -/
def linesOf (source : String) : List Line := (readLines source).filterMap (·.2)

theorem linesOf_no_break {source : String} {l : Line} (hl : l ∈ linesOf source) :
    '\n' ∉ l.content.toList := by
  obtain ⟨e, he, hel⟩ := List.mem_filterMap.1 hl
  obtain ⟨⟨n, t⟩, -, rfl⟩ := List.mem_map.1 he
  exact Line.content_no_break hel

/-- Reading lines that all have their fields reads them one by one. -/
theorem foldl_readEntry_of_parsed (o : ReadOptions) (d : Bool) :
    ∀ (es : List (Nat × Option Line)) (st : Reading), (∀ e ∈ es, e.2.isSome) →
      es.foldl (Reading.readEntry o d) st =
        (es.filterMap (·.2)).foldl (fun st l => st.readLine o d l) st
  | [], _, _ => rfl
  | (_, some l) :: es, st, h => by
    simp only [List.foldl_cons, List.filterMap_cons]
    exact foldl_readEntry_of_parsed o d es _ fun e he => h e (List.mem_cons_of_mem _ he)
  | (_, none) :: _, _, h => by simpa using h _ List.mem_cons_self

def Record.isCommand : Record → Bool
  | .command .. => true
  | _ => false

/-- A walk over records whose commands are all exports by default ends at the first of them,
storing the document, or, without one, at the last record. -/
theorem walk_of_exports (deeper : Runner) (doc : Document) (source : String)
    (stack : List String) :
    ∀ (rs : List Record) (acc : List Value),
      (∀ r ∈ rs, ∀ kw n c, r = .command kw n c → kw = "ex" ∧ c = exportDefault) →
      walk deeper doc source stack rs acc =
        if rs.any Record.isCommand then Walk.exported <$> exportDocument doc source exportDefault
        else pure (.finished (acc ++ rs.filterMap Record.value?))
  | [], acc, _ => by simp [walk]
  | r :: rs, acc, h => by
    have ih := walk_of_exports deeper doc source stack rs
    have hrs := fun r' hr' => h r' (List.mem_cons_of_mem r hr')
    cases r with
    | text kw n v => simp [walk, ih _ hrs, Record.value?, Record.isCommand]
    | array kw n items => simp [walk, ih _ hrs, Record.value?, Record.isCommand]
    | error e => simp [walk, ih _ hrs, Record.value?, Record.isCommand, List.filterMap_cons]
    | command kw n c =>
      obtain ⟨rfl, rfl⟩ := h _ List.mem_cons_self kw n c rfl
      simp [walk_export, Record.isCommand]

/-- A walk over records without commands ends at the last record, with their values after those
so far. -/
theorem walk_of_no_command (deeper : Runner) (doc : Document) (source : String)
    (stack : List String) (rs : List Record) (acc : List Value)
    (h : ∀ r ∈ rs, r.isCommand = false) :
    walk deeper doc source stack rs acc = pure (.finished (acc ++ rs.filterMap Record.value?)) := by
  have hcmd : ∀ r ∈ rs, ∀ kw n c, r = .command kw n c → kw = "ex" ∧ c = exportDefault := by
    rintro r hr kw n c rfl
    exact absurd (h _ hr) (by simp [Record.isCommand])
  have hany : rs.any Record.isCommand = false := by simpa using h
  rw [walk_of_exports deeper doc source stack rs acc hcmd, hany, if_neg Bool.false_ne_true]

/-- An export by default stores the document under its name, or under `default` when it has
none, and gives the document's values; a name already taken is refused. -/
theorem exportDocument_on_default (doc : Document) (source : String) (m : Machine) :
    (exportDocument doc source exportDefault).on m =
      match m.context.files.exportAs (if doc.name.isEmpty then exportDefault else doc.name)
          doc.content (stripDefaultExports source) with
      | none =>
        (.error (.duplicateExport (if doc.name.isEmpty then exportDefault else doc.name)), m)
      | some files => (.ok doc.values, { m with context := { m.context with files } }) := by
  simp only [exportDocument, bne_self_eq_false, Bool.false_eq_true, if_false,
    Run.on_context_bind]
  cases m.context.files.exportAs (if doc.name.isEmpty then exportDefault else doc.name)
    doc.content (stripDefaultExports source) <;> rfl

theorem Store.get?_of_exportAs {s s' : Store} {name key : String} {content : Ledger Record}
    {source : String} (h : s.exportAs name content source = some s') (hkey : s.get? key = none)
    {f : ExportedFile} (hf : s'.get? key = some f) :
    key = name ∧ f = ⟨name, content, source⟩ := by
  unfold Store.exportAs at h
  split at h
  · cases h
  · cases h
    by_cases hk : key = name
    · subst hk
      simp only [Store.get?, Ledger.get?_insert_self, Option.some.injEq] at hf
      exact ⟨rfl, hf.symm⟩
    · rw [Store.get?, Ledger.get?_insert_of_ne _ _ hk] at hf
      rw [Store.get?] at hkey
      rw [hkey] at hf
      cases hf

/-- A run of a source whose only commands are exports by default, when it succeeds and stores a
new name, read no error, gave the values of its document, and stored that document with its
stripped source under the document's name; the registry and the settings stay as they were. -/
theorem execute_exported {source name : String} {m m' : Machine} {vs : List Value}
    {f : ExportedFile} {stE : Reading} (hread : ({} : Frame).reading m.context source = stE)
    (hcmd : ∀ r ∈ stE.doc.content.values, ∀ kw n c, r = .command kw n c →
      kw = "ex" ∧ c = exportDefault)
    (hrun : (execute source).on m = (.ok vs, m'))
    (hnew : m.context.files.get? name = none) (hf : m'.context.files.get? name = some f) :
    stE.doc.errors = [] ∧ vs = stE.doc.values ∧ f.content = stE.doc.content ∧
      f.source = stripDefaultExports source ∧
      name = (if stE.doc.name.isEmpty then exportDefault else stE.doc.name) ∧
      m'.context.keywords = m.context.keywords ∧ m'.context.settings = m.context.settings := by
  have hrun' : (runWith (runWithin 319) source {}).on m = (.ok vs, m') := hrun
  have hafter : ({} : Frame).afterReading m source = m.withVariables stE.scope := by
    unfold Frame.afterReading
    rw [hread]
    rfl
  rw [runWith_on, hread, hafter] at hrun'
  cases herr : stE.doc.errors with
  | cons e es =>
    rw [herr] at hrun'
    cases hrun'
  | nil =>
    simp only [herr] at hrun'
    rw [walk_of_exports _ _ _ _ _ _ hcmd] at hrun'
    split at hrun'
    · -- the walk meets an export by default, which stores the document
      rw [Run.on_map, Run.on_map, exportDocument_on_default] at hrun'
      cases hx : (m.withVariables stE.scope).context.files.exportAs
          (if stE.doc.name.isEmpty then exportDefault else stE.doc.name) stE.doc.content
          (stripDefaultExports source) with
      | none =>
        rw [hx] at hrun'
        cases hrun'
      | some files =>
        rw [hx] at hrun'
        obtain ⟨hvs, rfl⟩ := Prod.mk.inj hrun'
        obtain ⟨hname, rfl⟩ := Store.get?_of_exportAs hx hnew hf
        exact ⟨rfl, (Except.ok.inj hvs).symm, rfl, rfl, hname, rfl, rfl⟩
    · -- without an export the store is as it was, and the name is still free
      rw [Run.on_map, Run.on_pure] at hrun'
      obtain ⟨-, rfl⟩ := Prod.mk.inj hrun'
      rw [show (m.withVariables stE.scope).context.files = m.context.files from rfl, hnew] at hf
      cases hf

/-! ## The line that imports a name -/

/-- The fields of the line `1: IM:` followed by a content without blanks at its start. -/
theorem fields_import {cs : List Char} (hstart : dropBlanks cs = cs) (hline : '\n' ∉ cs) :
    Line.fields ('1' :: ':' :: ' ' :: 'I' :: 'M' :: ':' :: ' ' :: cs) =
      some (['1'], ['I', 'M'], cs) := by
  have hstart' : cs.dropWhile isBlank = cs := hstart
  have h1 : isBlank '1' = false := by decide
  have hc : isBlank ':' = false := by decide
  have hI : isBlank 'I' = false := by decide
  have hM : isBlank 'M' = false := by decide
  have hs : isBlank ' ' = true := by decide
  simp [Line.fields, Line.fieldThen, dropBlanks, Line.contentOf, h1, hc, hI, hM, hs, hstart',
    hline]

/-- A text that trimming leaves alone has no blanks at either end. -/
theorem trim_eq_self {s : String} (h : trim s = s) :
    dropBlanks s.toList = s.toList ∧ dropBlanksEnd s.toList = s.toList := by
  have hcs : dropBlanksEnd (dropBlanks s.toList) = s.toList := by
    simpa [trim] using congrArg String.toList h
  have hle₁ : (dropBlanks s.toList).length ≤ s.toList.length :=
    (List.dropWhile_suffix isBlank).length_le
  have hle₂ : ∀ cs : List Char, (dropBlanksEnd cs).length ≤ cs.length := fun cs => by
    simpa [dropBlanksEnd, dropBlanks] using
      (List.dropWhile_suffix (l := cs.reverse) isBlank).length_le
  have hstart : dropBlanks s.toList = s.toList := by
    apply (List.dropWhile_suffix isBlank).eq_of_length
    have := hle₂ (dropBlanks s.toList)
    rw [hcs] at this
    exact le_antisymm hle₁ this
  exact ⟨hstart, by rw [← hstart, hcs, hstart]⟩

theorem dropBlanksEnd_append {pre cs : List Char} (hcs : cs ≠ []) (hend : dropBlanksEnd cs = cs) :
    dropBlanksEnd (pre ++ cs) = pre ++ cs := by
  have hrev : cs.reverse.dropWhile isBlank = cs.reverse := by
    rw [← List.reverse_reverse (cs.reverse.dropWhile isBlank)]
    exact congrArg List.reverse hend
  unfold dropBlanksEnd dropBlanks
  rw [List.reverse_append, List.dropWhile_append, hrev]
  simp [hcs]

/-- The text `1: IM: name`, for a name without blanks at its ends and without line breaks, is one
line that imports the name. -/
theorem readLines_import {name : String} (hne : name ≠ "") (hline : '\n' ∉ name.toList)
    (htrim : trim name = name) :
    readLines ("1: IM: " ++ name) = [(1, some ⟨1, "1", "im", name⟩)] := by
  obtain ⟨hstart, hend⟩ := trim_eq_self htrim
  have hcs : name.toList ≠ [] := by simpa using hne
  have hpre : "1: IM: ".toList = ['1', ':', ' ', 'I', 'M', ':', ' '] := rfl
  have hsrc : ("1: IM: " ++ name).toList = "1: IM: ".toList ++ name.toList := String.toList_append
  -- the text is one line, with nothing to trim at its ends
  have hsplit : ("1: IM: " ++ name).toList.splitOn '\n' = [("1: IM: " ++ name).toList] := by
    apply List.splitOn_eq_singleton
    simp [hsrc, hpre, hline]
  have htrimmed : dropBlanksEnd (dropBlanks ("1: IM: " ++ name).toList) =
      ("1: IM: " ++ name).toList := by
    have h1 : isBlank '1' = false := by decide
    rw [hsrc, hpre, dropBlanks, List.cons_append, List.dropWhile_cons_of_neg (by simp [h1]),
      ← List.cons_append, dropBlanksEnd_append hcs hend]
  have hlower : lower (String.ofList ['I', 'M']) = "im" := by
    have hletters : lowerFrom [] ['I', 'M'] = ['i', 'm'] := by decide
    rw [lower, String.toList_ofList, hletters]
  unfold readLines numberedLines
  rw [hsplit]
  simp only [List.zipIdx_cons, List.zipIdx_nil, List.filterMap_cons, List.filterMap_nil, htrimmed]
  rw [if_pos (by simp [hsrc, hpre])]
  simp only [Line.parse?, hsrc, hpre, List.cons_append, List.nil_append, List.map_cons,
    List.map_nil, String.toList_ofList, fields_import hstart hline, Option.map_some,
    String.ofList_toList, hlower]

/-- A name without commas and without blanks at its ends is an import of that name alone. -/
theorem importArguments_of_plain {name : String} (hcomma : ',' ∉ name.toList)
    (htrim : trim name = name) : importArguments name = [name] := by
  unfold importArguments
  rw [htrim, List.splitOn_eq_singleton hcomma]
  simp

/-- Running `1: IM: name` on a machine that stores the name runs the stored source in a scope of
its own: when that reading stages no error and holds no command, the run gives the reading's
values and leaves the machine as it was. -/
theorem execute_import {name : String} {m : Machine} {f : ExportedFile}
    (hne : name ≠ "") (hcomma : ',' ∉ name.toList) (hdollar : '$' ∉ name.toList)
    (hline : '\n' ∉ name.toList) (htrim : trim name = name)
    (hf : m.context.files.get? name = some f) {stI : Reading}
    (hread : Document.read (m.context.readOptions true) {} f.source = stI)
    (herr : stI.doc.errors = []) (hcmd : ∀ r ∈ stI.doc.content.values, r.isCommand = false) :
    (execute ("1: IM: " ++ name)).on m = (.ok stI.doc.values, m) := by
  -- the line reads as one command, and the reading declares nothing
  have hreading : ({} : Frame).reading m.context ("1: IM: " ++ name) =
      { doc := { content := ({} : Ledger Record).insert "1" (.command "im" 1 name) },
        scope := m.context.«variables» } := by
    have hsub : substitute m.context.«variables».get? name = ⟨name, []⟩ :=
      substitute_of_no_dollar _ hdollar
    have hlookup : Keyword.lookup? "im" = some .im := Keyword.lookup?_text .im
    simp only [Frame.reading, Document.read, readLines_import hne hline htrim, List.foldl_cons,
      List.foldl_nil, Reading.readEntry, Reading.readLine, hsub, hlookup, List.filter_nil,
      ite_self, Option.getD_none]
    simp +decide only [Keyword.some_beq_some, decide_false, if_false, Reading.readOther,
      decide_true, Bool.true_or, if_true]
    rfl
  have hafter : ({} : Frame).afterReading m ("1: IM: " ++ name) = m := by
    unfold Frame.afterReading
    rw [hreading]
    rfl
  have hinner : (runWithin 319 f.source
      { parameters := some (importParameters []), stack := [] ++ [name] }).on m =
      (.ok stI.doc.values, m) := by
    have hread' : Document.read (m.context.readOptions true) (importParameters []) f.source =
        ⟨stI.doc, stI.scope⟩ := hread
    show (runWith (runWithin 318) f.source _).on m = _
    rw [runWith_on_params hread' herr, walk_of_no_command _ _ _ _ _ _ hcmd]
    rfl
  show (runWith (runWithin 319) ("1: IM: " ++ name) {}).on m = _
  rw [runWith_on, hreading, hafter]
  simp only [Document.errors, Ledger.values, Ledger.insert, Ledger.upsert, List.map_cons,
    List.map_nil, List.filterMap_cons, Record.error?, List.filterMap_nil]
  rw [Run.on_map, walk_import, Run.on_bind_of_ok
    ((importExport_on_args (importArguments_of_plain hcomma htrim) hf (List.not_mem_nil)).trans
      hinner)]
  simp [walk, Walk.values]

/-! ## Importing an export gives what it gave -/

/-- A source that an import gives back as it exported it: every kept line has its fields; every
keyword is one of the language's other than `im`; every export line exports by default, under an
identifier that no other line shares but a declaration or a name; and every variable that a line
names is declared by a `dc` line before it. -/
structure Reimportable (source : String) : Prop where
  parses : ∀ e ∈ readLines source, e.2.isSome
  keywords : ∀ l ∈ linesOf source, (Keyword.ofText? l.keyword).isSome ∧ l.keyword ≠ "im"
  exports : ∀ l ∈ linesOf source, l.keyword = "ex" → l.content = exportDefault
  exportAlone : ∀ l ∈ linesOf source, l.keyword = "ex" → ∀ l' ∈ linesOf source, l' ≠ l →
    l'.identifier = l.identifier → l'.keyword = "dc" ∨ l'.keyword = "nm"
  declared : declaresBeforeUse [] (linesOf source) = true

instance (source : String) : Decidable (Reimportable source) :=
  decidable_of_iff ((∀ e ∈ readLines source, e.2.isSome) ∧
      (∀ l ∈ linesOf source, (Keyword.ofText? l.keyword).isSome ∧ l.keyword ≠ "im") ∧
      (∀ l ∈ linesOf source, l.keyword = "ex" → l.content = exportDefault) ∧
      (∀ l ∈ linesOf source, l.keyword = "ex" → ∀ l' ∈ linesOf source, l' ≠ l →
        l'.identifier = l.identifier → l'.keyword = "dc" ∨ l'.keyword = "nm") ∧
      declaresBeforeUse [] (linesOf source) = true)
    ⟨fun ⟨a, b, c, d, e⟩ => ⟨a, b, c, d, e⟩, fun ⟨a, b, c, d, e⟩ => ⟨a, b, c, d, e⟩⟩

def exportIdentifiers (source : String) : List String :=
  ((linesOf source).filter fun l => l.keyword = "ex").map Line.identifier

/-- Every kept line of a stripped source has its fields when every kept line of the source has. -/
theorem parses_strip {source : String} (h : ∀ e ∈ readLines source, e.2.isSome) :
    ∀ e ∈ readLines (stripDefaultExports source), e.2.isSome := by
  intro e he
  obtain ⟨⟨n', t⟩, ht, rfl⟩ := List.mem_map.1 he
  obtain ⟨n, hn, -⟩ := mem_numberedLines_strip ht
  have hsome := h (n, Line.parse? n t) (List.mem_map.2 ⟨(n, t), hn, rfl⟩)
  rw [Line.parse?_renumber n 0 t, Option.isSome_map] at hsome
  simp only [Line.parse?_renumber n' 0 t, Option.isSome_map]
  exact hsome

/-- The reading of a reimportable source at its export and the reading of its stripped source at
an import, with the same registry and settings, are related. -/
theorem Reimportable.reimports {source : String} (hs : Reimportable source) {c c' : Context}
    (hkeys : c'.keywords = c.keywords) (hsettings : c'.settings = c.settings) :
    ∃ D, Reading.Reimports (exportIdentifiers source) D
      (Document.read (c.readOptions false) c.«variables» source)
      (Document.read (c'.readOptions true) {} (stripDefaultExports source)) := by
  have hE := foldl_readEntry_of_parsed (c.readOptions false)
    (defersParameters (c.readOptions false) (readLines source)) (readLines source)
    { scope := c.«variables» } hs.parses
  have hI := foldl_readEntry_of_parsed (c'.readOptions true)
    (defersParameters (c'.readOptions true) (readLines (stripDefaultExports source)))
    (readLines (stripDefaultExports source)) { scope := {} } (parses_strip hs.parses)
  unfold Document.read
  rw [hE, hI]
  refine Reading.Reimports.foldl_readLine ?_ ?_ _ _ (linesOf source)
    (linesOf (stripDefaultExports source)) [] _ _ ?_ ?_ ?_ ?_ (fun _ => linesOf_no_break)
    hs.declared (strip_lines_unnumbered source)
  · simp [Context.readOptions, hkeys]
  · simp [Context.readOptions, hsettings]
  · -- at the start the documents are empty and nothing is declared
    exact ⟨fun _ hx => absurd hx List.not_mem_nil, rfl, fun _ he => absurd he List.not_mem_nil,
      fun _ he => absurd he List.not_mem_nil, List.not_mem_nil,
      fun _ hx => absurd hx List.not_mem_nil⟩
  · intro l hl
    obtain ⟨hsome, him⟩ := hs.keywords l hl
    obtain ⟨k, hk⟩ := Option.isSome_iff_exists.1 hsome
    refine ⟨k, hk, ?_⟩
    rintro rfl
    exact him (Keyword.text_of_ofText? hk).symm
  · intro l hl hex
    exact ⟨hs.exports l hl hex, List.mem_map.2 ⟨l, List.mem_filter.2 ⟨hl, by simpa using hex⟩, rfl⟩⟩
  · intro l hl hex hX
    obtain ⟨l₀, hl₀, hid⟩ := List.mem_map.1 hX
    obtain ⟨hl₀, hex₀⟩ := List.mem_filter.1 hl₀
    have hex₀ : l₀.keyword = "ex" := by simpa using hex₀
    exact hs.exportAlone l₀ hl₀ hex₀ l hl (fun h => hex (h ▸ hex₀)) hid.symm

/-- Importing an export gives what the export gave. Take a reimportable source, exported by a run
that succeeds and stores a new name, which has no comma, no `$` and no blank at its ends: the
export gave the values of the stored document, and running `1: IM: name` afterwards gives those
values again and changes nothing. -/
theorem import_reproduces_export {source name : String} (hs : Reimportable source)
    (hcomma : ',' ∉ name.toList) (hdollar : '$' ∉ name.toList) (htrim : trim name = name)
    {m m' : Machine} {vs : List Value}
    (hrun : (execute source).on m = (.ok vs, m'))
    (hnew : m.context.files.get? name = none) {f : ExportedFile}
    (hf : m'.context.files.get? name = some f) :
    vs = f.content.values.filterMap Record.value? ∧
      (execute ("1: IM: " ++ name)).on m' = (.ok vs, m') := by
  -- the export: it read no error and stored its document under the name
  have hcmd : ∀ r ∈ (({} : Frame).reading m.context source).doc.content.values, ∀ kw n c,
      r = .command kw n c → kw = "ex" ∧ c = exportDefault := by
    obtain ⟨D, hrel⟩ := hs.reimports (c := m.context) rfl rfl
    intro r hr kw n c hrc
    obtain ⟨⟨key, r'⟩, he, rfl⟩ := List.mem_map.1 hr
    exact (hrel.commands _ he kw n c hrc).2
  obtain ⟨herr, hvs, hcontent, hsource, hname, hkeys, hsettings⟩ :=
    execute_exported rfl hcmd hrun hnew hf
  -- the import reads the stripped source in relation to the export's reading
  obtain ⟨D, hrel⟩ := hs.reimports hkeys hsettings
  have hne : name ≠ "" := by
    rw [hname]
    split
    · decide
    · rename_i hempty
      simpa using hempty
  -- a name read off a line has no line break
  have hline : '\n' ∉ name.toList := by
    rw [hname]
    split
    · decide
    · exact hrel.nameUnbroken
  refine ⟨by rw [hvs, hcontent]; rfl, ?_⟩
  rw [execute_import hne hcomma hdollar hline htrim hf (by rw [hsource]) (hrel.errors_eq_nil herr)
    fun r hr => ?_]
  · rw [hrel.values_eq, hvs]
    rfl
  · cases r with
    | command kw n c => exact absurd rfl (hrel.not_command hr kw n c)
    | _ => rfl

/-- A library that exports at its first line, above its value lines, imports back as it
exported. -/
theorem import_reproduces_export_sample :
    Reimportable "0: EX: default\nn: NM: lib\nx: DC: a\n1: WL: $x\n2: AR: b\n2: AD: c" ∧
      (execute "1: IM: lib").on ((execute
          "0: EX: default\nn: NM: lib\nx: DC: a\n1: WL: $x\n2: AR: b\n2: AD: c").on
          { context := {} }).2 =
        (execute "0: EX: default\nn: NM: lib\nx: DC: a\n1: WL: $x\n2: AR: b\n2: AD: c").on
          { context := {} } := by
  have hs : Reimportable "0: EX: default\nn: NM: lib\nx: DC: a\n1: WL: $x\n2: AR: b\n2: AD: c" := by
    decide +kernel
  have hok : ((execute "0: EX: default\nn: NM: lib\nx: DC: a\n1: WL: $x\n2: AR: b\n2: AD: c").on
      { context := {} }).1.toOption.isSome = true := by decide +kernel
  obtain ⟨vs, hvs⟩ := Option.isSome_iff_exists.1 hok
  have hrun : (execute "0: EX: default\nn: NM: lib\nx: DC: a\n1: WL: $x\n2: AR: b\n2: AD: c").on
      { context := {} } = (.ok vs, ((execute
        "0: EX: default\nn: NM: lib\nx: DC: a\n1: WL: $x\n2: AR: b\n2: AD: c").on
        { context := {} }).2) := by
    refine Prod.ext ?_ rfl
    revert hvs
    cases ((execute "0: EX: default\nn: NM: lib\nx: DC: a\n1: WL: $x\n2: AR: b\n2: AD: c").on
      { context := {} }).1 <;> simp [Except.toOption]
  obtain ⟨f, hf⟩ := Option.isSome_iff_exists.1 (show (((execute
      "0: EX: default\nn: NM: lib\nx: DC: a\n1: WL: $x\n2: AR: b\n2: AD: c").on
      { context := {} }).2.context.files.get? "lib").isSome = true by decide +kernel)
  have himport := (import_reproduces_export hs (by decide) (by decide) (by decide +kernel) hrun rfl
    hf).2
  exact ⟨hs, himport.trans hrun.symm⟩

/-! ## What the import gives without the conditions -/

mutual
/-- Values that the structural equality of values finds equal are equal. -/
theorem Value.eq_of_beq : ∀ {a b : Value}, Value.beq a b = true → a = b
  | .text _, .text _, h => by simpa [Value.beq] using h
  | .int _, .int _, h => by simpa [Value.beq] using h
  | .null, .null, _ => rfl
  | .list as, .list bs, h => by
    have hlist : Value.beqList as bs = true := by simpa [Value.beq] using h
    rw [Value.eq_of_beqList hlist]
  | .text _, .int _, h | .text _, .null, h | .text _, .list _, h
  | .int _, .text _, h | .int _, .null, h | .int _, .list _, h
  | .null, .text _, h | .null, .int _, h | .null, .list _, h
  | .list _, .text _, h | .list _, .int _, h | .list _, .null, h => by simp [Value.beq] at h

theorem Value.eq_of_beqList : ∀ {as bs : List Value}, Value.beqList as bs = true → as = bs
  | [], [], _ => rfl
  | a :: as, b :: bs, h => by
    simp only [Value.beqList, Bool.and_eq_true] at h
    rw [Value.eq_of_beq h.1, Value.eq_of_beqList h.2]
  | [], _ :: _, h | _ :: _, [], h => by simp [Value.beqList] at h
end

/-- A result whose values the structural equality finds equal to some values gave those values. -/
theorem eq_ok_of_beqList {r : Except Fault (List Value)} {vs : List Value}
    (h : (r.toOption.map fun ws => Value.beqList ws vs) = some true) : r = .ok vs := by
  cases r with
  | error e => cases h
  | ok ws =>
    simp only [Except.toOption, Option.map_some, Option.some.injEq] at h
    rw [Value.eq_of_beqList h]

/-- A result that failed on a staged error failed with that error. -/
theorem eq_error_staged {r : Except Fault (List Value)} {e : StagedError}
    (h : (match r with | .error (.staged e') => decide (e' = e) | _ => false) = true) :
    r = .error (.staged e) := by
  rcases r with (_ | _ | _ | _ | _ | _ | _ | _) | _ <;> simp_all

/-- A result that failed on an import of a name not stored failed so. -/
theorem eq_error_importNotFound {r : Except Fault (List Value)} {name : String}
    (h : (match r with | .error (.importNotFound n) => decide (n = name) | _ => false) = true) :
    r = .error (.importNotFound name) := by
  rcases r with (_ | _ | _ | _ | _ | _ | _ | _) | _ <;> simp_all

/-- An import gives something else than its export in each of four ways. An `ar` line takes over
the identifier of an export line: the array keeps that line's place, first among the exported
values, while the stripped source files it after the value line. A line that cannot be read moves
up a number once the export line above it is stripped, so the `ar` line that replaced its error
no longer does. A name that holds `$x` is substituted when `1: IM:` is read, and a name with a
blank at its start loses it. -/
theorem import_differs_from_export :
    ((execute "0: EX: default\n1: WL: a\n0: AR: b\n2: EX: default\nn: NM: lib").on
        { context := {} }).1 = .ok [Value.ofTexts ["b"], .text "a"] ∧
      ((execute "1: IM: lib").on ((execute
          "0: EX: default\n1: WL: a\n0: AR: b\n2: EX: default\nn: NM: lib").on
          { context := {} }).2).1 = .ok [.text "a", Value.ofTexts ["b"]] ∧
      ((execute "0: EX: default\nbroken\n2: AR: x\nn: NM: lib").on { context := {} }).1 =
        .ok [Value.ofTexts ["x"]] ∧
      ((execute "1: IM: lib").on ((execute "0: EX: default\nbroken\n2: AR: x\nn: NM: lib").on
          { context := {} }).2).1 =
        .error (.staged ⟨"none", 1, "Invalid syntax (line:1)", .invalidSyntax⟩) ∧
      ((execute "a: DC: $\nb: DC: x\nn: NM: $a$b\n1: WL: v\n2: EX: default").on
        { context := {} }).1 = .ok [.text "v"] ∧
      ((execute "a: DC: $\nb: DC: x\nn: NM: $a$b\n1: WL: v\n2: EX: default").on
        { context := {} }).2.context.files.names = ["$x"] ∧
      ((execute "1: IM: $x").on ((execute
          "a: DC: $\nb: DC: x\nn: NM: $a$b\n1: WL: v\n2: EX: default").on
          { context := {} }).2).1 =
        .error (.staged ⟨"none", 1, "Unknown variable '$x' (line:1)", .unknownVariable⟩) ∧
      ((execute "a: DC:\nn: NM: $a lib\n1: WL: v\n2: EX: default").on { context := {} }).1 =
        .ok [.text "v"] ∧
      ((execute "a: DC:\nn: NM: $a lib\n1: WL: v\n2: EX: default").on
        { context := {} }).2.context.files.names = [" lib"] ∧
      ((execute "1: IM:  lib").on ((execute "a: DC:\nn: NM: $a lib\n1: WL: v\n2: EX: default").on
          { context := {} }).2).1 = .error (.importNotFound "lib") := by
  refine ⟨eq_ok_of_beqList (by decide +kernel), eq_ok_of_beqList (by decide +kernel),
    eq_ok_of_beqList (by decide +kernel), eq_error_staged (by decide +kernel),
    eq_ok_of_beqList (by decide +kernel), by decide +kernel, eq_error_staged (by decide +kernel),
    eq_ok_of_beqList (by decide +kernel), by decide +kernel,
    eq_error_importNotFound (by decide +kernel)⟩

end Colonnade
