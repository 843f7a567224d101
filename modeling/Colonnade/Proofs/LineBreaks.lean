import Colonnade.Proofs.Reimport
import Colonnade.Proofs.ImportChain
import Colonnade.Proofs.SubstitutionScan
import Colonnade.Proofs.LineFields
import Colonnade.Proofs.ParameterNames
/-! # Sources cut at their line breaks

Stripping and wrapping cut a source at its line breaks and join the pieces again. Stripping twice
changes nothing (`strip_removes_exactly_default_exports`); a wrapped text with no variable in it and
a one-line name reads back as its trimmed lines (`text_document_holds_trimmed_lines`), and otherwise
with errors (`wrapped_text_reads_with_errors`).
-/
namespace Colonnade

open Text

/-! ## Stripping default exports -/

/-- Stripping joins again, as written and in order, the pieces between line breaks that do not
export by default; when no piece does, these are all the pieces, which join to the source. -/
theorem stripDefaultExports_eq_join (s : String) :
    stripDefaultExports s = String.ofList (['\n'].intercalate
      ((s.toList.splitOn '\n').filter fun p => !pieceExportsByDefault p)) := by
  rw [stripDefaultExports_eq]
  split
  · rfl
  · rename_i hnone
    have hall : ((s.toList.splitOn '\n').filter fun p => !pieceExportsByDefault p) =
        s.toList.splitOn '\n' := List.filter_eq_self.2 (by simpa using hnone)
    rw [hall, List.intercalate_splitOn, String.ofList_toList]

theorem stripDefaultExports_of_none {s : String}
    (h : ∀ p ∈ s.toList.splitOn '\n', pieceExportsByDefault p = false) :
    stripDefaultExports s = s := by
  rw [stripDefaultExports_eq, if_neg (by simpa using h)]

/-- No piece of a stripped source exports by default. -/
theorem pieces_stripDefaultExports (s : String) :
    ∀ p ∈ (stripDefaultExports s).toList.splitOn '\n', pieceExportsByDefault p = false := by
  rw [stripDefaultExports_eq_join, String.toList_ofList]
  by_cases hnil : ((s.toList.splitOn '\n').filter fun p => !pieceExportsByDefault p) = []
  · -- all is stripped: the empty source is one empty piece, too short to be a line
    rw [hnil]
    simp [pieceExportsByDefault, pieceText, Text.dropBlanks, Text.dropBlanksEnd]
  · have hsep : ∀ p ∈ (s.toList.splitOn '\n').filter fun p => !pieceExportsByDefault p,
        '\n' ∉ p := fun p hp => not_mem_of_mem_splitOn (List.mem_of_mem_filter hp)
    rw [List.splitOn_intercalate '\n' hsep hnil]
    intro p hp
    simpa using (List.mem_filter.1 hp).2

/-- Stripping removes exactly the lines that export by default: the source is cut at its line
breaks, the pieces that, trimmed, have at least three characters and read with keyword `ex` and
content `default` are dropped, and the others are joined again as written and in order; a source
without such a piece comes back as it is. No line of a stripped source exports by default, so
stripping twice is stripping once. -/
theorem strip_removes_exactly_default_exports (s : String) :
    stripDefaultExports s = String.ofList (['\n'].intercalate
        ((s.toList.splitOn '\n').filter fun p => !pieceExportsByDefault p)) ∧
      ((∀ p ∈ s.toList.splitOn '\n', pieceExportsByDefault p = false) →
        stripDefaultExports s = s) ∧
      stripDefaultExports (stripDefaultExports s) = stripDefaultExports s ∧
      ∀ p ∈ (stripDefaultExports s).toList.splitOn '\n', pieceExportsByDefault p = false :=
  ⟨stripDefaultExports_eq_join s, stripDefaultExports_of_none,
    stripDefaultExports_of_none (pieces_stripDefaultExports s), pieces_stripDefaultExports s⟩

/-! ## Texts that name no variable -/

/-- Whether characters name a variable: some `$` in them has a name character right after it. -/
def namesVariable : List Char → Bool
  | [] => false
  | c :: rest => (c == '$' && startsName rest) || namesVariable rest

/-- Without a variable, substitution has nothing to look up: every `$` stands alone. -/
theorem substituteChars_of_not_namesVariable (lookup : String → Option String) :
    ∀ {cs : List Char}, namesVariable cs = false → substituteChars lookup cs = (cs, [])
  | [], _ => by rw [substituteChars]
  | c :: rest, h => by
    simp only [namesVariable, Bool.or_eq_false_iff, Bool.and_eq_false_iff,
      beq_eq_false_iff_ne] at h
    obtain ⟨hdollar, hrest⟩ := h
    by_cases hc : c = '$'
    · subst hc
      have hname : startsName rest = false := hdollar.resolve_left (fun h => h rfl)
      rw [substituteChars_lone lookup hname, substituteChars_of_not_namesVariable lookup hrest]
    · rw [substituteChars_plain lookup rest hc, substituteChars_of_not_namesVariable lookup hrest]

theorem substitute_of_not_namesVariable (lookup : String → Option String) {s : String}
    (h : namesVariable s.toList = false) : substitute lookup s = ⟨s, []⟩ := by
  simp [substitute, substituteChars_of_not_namesVariable lookup h]

theorem namesVariable_append_right {a b : List Char} (h : namesVariable (a ++ b) = false) :
    namesVariable b = false := by
  induction a with
  | nil => exact h
  | cons c a ih =>
    simp only [List.cons_append, namesVariable, Bool.or_eq_false_iff] at h
    exact ih h.2

theorem namesVariable_append_left {a b : List Char} (h : namesVariable (a ++ b) = false) :
    namesVariable a = false := by
  induction a with
  | nil => rfl
  | cons c a ih =>
    simp only [List.cons_append, namesVariable, Bool.or_eq_false_iff] at h ⊢
    refine ⟨?_, ih h.2⟩
    -- a `$` at the end of `a` has nothing after it there
    cases a with
    | nil => simp [startsName]
    | cons x xs => simpa [startsName] using h.1

theorem namesVariable_dropBlanks {cs : List Char} (h : namesVariable cs = false) :
    namesVariable (dropBlanks cs) = false := by
  obtain ⟨t, ht⟩ := List.dropWhile_suffix isBlank (l := cs)
  rw [← ht] at h
  exact namesVariable_append_right h

theorem namesVariable_dropBlanksEnd {cs : List Char} (h : namesVariable cs = false) :
    namesVariable (dropBlanksEnd cs) = false := by
  have hsplit : dropBlanksEnd cs ++ (cs.reverse.takeWhile isBlank).reverse = cs := by
    rw [dropBlanksEnd, dropBlanks, ← List.reverse_append, List.takeWhile_append_dropWhile,
      List.reverse_reverse]
  rw [← hsplit] at h
  exact namesVariable_append_left h

theorem namesVariable_trim {s : String} (h : namesVariable s.toList = false) :
    namesVariable (trim s).toList = false := by
  simpa [trim] using namesVariable_dropBlanksEnd (namesVariable_dropBlanks h)

/-! ## Blanks at the ends -/

theorem isBlank_of_isDigit {c : Char} (h : c.isDigit = true) : isBlank c = false := by
  have hc := isDigit_iff_toNat.1 h
  simp only [isBlank, inRanges, blankRanges, List.any_cons, List.any_nil, Bool.or_false,
    Bool.or_eq_false_iff, Bool.and_eq_false_iff, decide_eq_false_iff_not, Nat.not_le]
  omega

theorem dropBlanksEnd_isPrefixOf (cs : List Char) : dropBlanksEnd cs <+: cs :=
  ⟨(cs.reverse.takeWhile isBlank).reverse, by
    rw [dropBlanksEnd, dropBlanks, ← List.reverse_append, List.takeWhile_append_dropWhile,
      List.reverse_reverse]⟩

/-- Blanks at the end are dropped behind the last character that is not blank. -/
theorem dropBlanksEnd_append_cons {c : Char} (hc : isBlank c = false) (u w : List Char) :
    dropBlanksEnd (u ++ c :: w) = u ++ c :: dropBlanksEnd w := by
  unfold dropBlanksEnd dropBlanks
  rw [List.reverse_append, List.reverse_cons, List.append_assoc, List.dropWhile_append]
  split
  · rename_i hnil
    rw [List.isEmpty_iff.1 hnil]
    simp [hc]
  · simp

theorem dropBlanks_dropBlanksEnd : ∀ cs : List Char,
    dropBlanks (dropBlanksEnd cs) = dropBlanksEnd (dropBlanks cs)
  | [] => rfl
  | c :: r => by
    cases hc : isBlank c
    · rw [dropBlanks_of_not_blank hc, ← List.nil_append (c :: r), dropBlanksEnd_append_cons hc,
        List.nil_append, dropBlanks_of_not_blank hc]
    · have hdrop : dropBlanks (c :: r) = dropBlanks r := by simp [dropBlanks, hc]
      rw [hdrop]
      -- a blank head goes with the end when all the rest is blank too
      cases hall : r.all isBlank
      · rw [dropBlanksEnd_cons (by simp [hall]), dropBlanks,
          List.dropWhile_cons_of_pos (by simpa using hc)]
        exact dropBlanks_dropBlanksEnd r
      · rw [dropBlanksEnd_of_all_blank (by simp [hc, hall]), (dropBlanks_eq_nil_iff r).2 hall]
        rfl

theorem trim_digits (k : Nat) : trim (String.ofList (Nat.toDigits 10 k)) = toString k := by
  have hdig : ∀ c ∈ Nat.toDigits 10 k, isBlank c = false := fun c hc =>
    isBlank_of_isDigit (Nat.isDigit_of_mem_toDigits (by decide) (by decide) hc)
  obtain ⟨d, ds, hd⟩ := List.exists_cons_of_ne_nil (Nat.toDigits_ne_nil (n := k) (b := 10))
  obtain ⟨init, z, hz⟩ := (List.eq_nil_or_concat (Nat.toDigits 10 k)).resolve_left
    Nat.toDigits_ne_nil
  have hstart : dropBlanks (Nat.toDigits 10 k) = Nat.toDigits 10 k := by
    rw [hd]
    exact dropBlanks_of_not_blank (hdig d (hd ▸ List.mem_cons_self)) ds
  have hend : dropBlanksEnd (Nat.toDigits 10 k) = Nat.toDigits 10 k := by
    rw [hz, List.concat_eq_append]
    exact dropBlanksEnd_of_not_blank (hdig z (by simp [hz])) init
  rw [trim, String.toList_ofList, hstart, hend, Nat.toString_eq_ofList_toDigits]

/-! ## The lines of a wrapped text -/

theorem readLines_eq (s : String) :
    readLines s = ((s.toList.splitOn '\n').zipIdx 1).filterMap fun e =>
      (pieceText e.1).map fun t => (e.2, Line.parse? e.2 t) := by
  unfold readLines numberedLines
  rw [List.map_filterMap]
  apply List.filterMap_congr
  rintro ⟨piece, n⟩ -
  simp only [pieceText]
  split <;> rfl

/-- A piece written as `x a: b: v`, with no colon before its two colons and no line break, is one
line: identifier, keyword and content are the three parts, trimmed. -/
theorem readPiece_written (n : Nat) {x : Char} {a b v : List Char} (hx : isBlank x = false)
    (ha : ':' ∉ x :: a) (hb : ':' ∉ b) (hn : '\n' ∉ x :: a ++ b ++ v) :
    (pieceText (x :: a ++ ':' :: ' ' :: b ++ ':' :: ' ' :: v)).map
        (fun t => (n, Line.parse? n t)) =
      some (n, some ⟨n, trim (String.ofList (x :: a)), lower (trim (String.ofList (' ' :: b))),
        trim (String.ofList v)⟩) := by
  have hcolon : isBlank ':' = false := by decide
  have hspace : isBlank ' ' = true := by decide
  -- trimmed, the piece loses only the blanks after its content
  have htrim : dropBlanksEnd (dropBlanks (x :: a ++ ':' :: ' ' :: b ++ ':' :: ' ' :: v)) =
      x :: a ++ ':' :: ' ' :: b ++ ':' :: dropBlanksEnd (' ' :: v) := by
    have hstart : dropBlanks (x :: a ++ ':' :: ' ' :: b ++ ':' :: ' ' :: v) =
        x :: a ++ ':' :: ' ' :: b ++ ':' :: ' ' :: v := by
      simp only [List.cons_append]
      exact dropBlanks_of_not_blank hx _
    rw [hstart, dropBlanksEnd_append_cons hcolon]
  have hlen : 3 ≤ (x :: a ++ ':' :: ' ' :: b ++ ':' :: dropBlanksEnd (' ' :: v)).length := by
    simp only [List.length_append, List.length_cons]
    omega
  have hline : '\n' ∉ (String.ofList (x :: a ++ ':' :: ' ' :: b ++ ':' ::
      dropBlanksEnd (' ' :: v))).toList := by
    have hsub := (dropBlanksEnd_isPrefixOf (' ' :: v)).subset
    intro h
    simp only [String.toList_ofList, List.mem_append, List.mem_cons] at h
    have hv : '\n' ∈ dropBlanksEnd (' ' :: v) → '\n' ∈ v := fun hd => by simpa using hsub hd
    apply hn
    simp only [List.mem_append, List.mem_cons]
    rcases h with ((h | h) | (h | h | h)) | (h | h) <;> simp_all
  have hcontent : trimStart (String.ofList (dropBlanksEnd (' ' :: v))) =
      trim (String.ofList v) := by
    simp only [trimStart, trim, String.toList_ofList, dropBlanks_dropBlanksEnd]
    rw [show dropBlanks (' ' :: v) = dropBlanks v by simp [dropBlanks, hspace]]
  rw [pieceText, htrim, if_pos hlen, Option.map_some,
    Line.parse?_of_split (a := x :: a) (b := ' ' :: b) (c := dropBlanksEnd (' ' :: v)) hline
      (by simp) ha (by simpa using hb), hcontent]

/-- The pieces of a wrapped text: the naming line, an empty line, and a value line for each piece
of the text, numbered from one. -/
theorem splitOn_wrapText (text : String) {name : String} (hname : '\n' ∉ name.toList) :
    (wrapText text name).toList.splitOn '\n' =
      ('0' :: ':' :: ' ' :: 'N' :: 'M' :: ':' :: ' ' :: name.toList) :: [] ::
        ((text.toList.splitOn '\n').zipIdx 1).map fun e =>
          Nat.toDigits 10 e.2 ++ ':' :: ' ' :: 'W' :: 'L' :: ':' :: ' ' :: e.1 := by
  have htos : ∀ s : String, toString s = s := fun _ => rfl
  have hnl : "\n".toList = ['\n'] := rfl
  have hnm : "0: NM: ".toList = ['0', ':', ' ', 'N', 'M', ':', ' '] := rfl
  have hwl : ": WL: ".toList = [':', ' ', 'W', 'L', ':', ' '] := rfl
  unfold wrapText
  rw [String.toList_intercalate, hnl]
  simp only [List.cons_append, List.nil_append, List.map_cons, List.map_map, Function.comp_def,
    htos, String.toList_append, String.toList_empty, hnm, hwl, String.toList_ofList,
    List.append_assoc, Nat.toString_eq_repr, Nat.toList_repr]
  refine List.splitOn_intercalate '\n' ?_ (List.cons_ne_nil _ _)
  -- no piece holds a line break
  intro p hp
  simp only [List.mem_cons, List.mem_map] at hp
  rcases hp with rfl | rfl | ⟨e, he, rfl⟩
  · simpa using hname
  · simp
  · have hline : '\n' ∉ e.1 := not_mem_of_mem_splitOn (List.fst_mem_of_mem_zipIdx he)
    simpa [not_mem_toDigits] using hline

/-- The value line that wrapping writes for a piece of the text. -/
theorem readPiece_value (k : Nat) (n : Nat) {l : List Char} (hl : '\n' ∉ l) :
    (pieceText (Nat.toDigits 10 k ++ ':' :: ' ' :: 'W' :: 'L' :: ':' :: ' ' :: l)).map
        (fun t => (n, Line.parse? n t)) =
      some (n, some ⟨n, toString k, "wl", trim (String.ofList l)⟩) := by
  obtain ⟨d, ds, hd⟩ := List.exists_cons_of_ne_nil (Nat.toDigits_ne_nil (n := k) (b := 10))
  have hdigit : ∀ c ∈ d :: ds, c.isDigit = true := fun c hc =>
    Nat.isDigit_of_mem_toDigits (by decide) (by decide) (hd ▸ hc)
  have hcolon : ':' ∉ d :: ds := hd ▸ not_mem_toDigits (by decide) k
  have hbreak : '\n' ∉ d :: ds ++ ['W', 'L'] ++ l := by
    have hdigits : '\n' ∉ d :: ds := hd ▸ not_mem_toDigits (by decide) k
    simp only [List.mem_append, not_or]
    exact ⟨⟨hdigits, by decide⟩, hl⟩
  have hwl : lower (trim (String.ofList [' ', 'W', 'L'])) = "wl" := by decide
  have hwritten := readPiece_written n (isBlank_of_isDigit (hdigit d List.mem_cons_self))
    hcolon (by decide) hbreak
  rw [← hd, trim_digits, hwl] at hwritten
  simpa [hd] using hwritten

/-- The value lines of a wrapped text, from its `k`-th piece on: the `i`-th piece is read from
line `i + 2`, under key `i`, with keyword `wl` and the piece trimmed as content. -/
theorem readLines_values (k : Nat) :
    ∀ L : List (List Char), (∀ l ∈ L, '\n' ∉ l) →
      (((L.zipIdx k).map fun e => Nat.toDigits 10 e.2 ++ ':' :: ' ' :: 'W' :: 'L' :: ':' :: ' ' ::
          e.1).zipIdx (k + 2)).filterMap
          (fun e => (pieceText e.1).map fun t => (e.2, Line.parse? e.2 t)) =
        (L.zipIdx k).map fun e =>
          (e.2 + 2, some ⟨e.2 + 2, toString e.2, "wl", trim (String.ofList e.1)⟩)
  | [], _ => rfl
  | l :: L, hL => by
    rw [List.zipIdx_cons, List.map_cons, List.zipIdx_cons, List.filterMap_cons,
      readPiece_value k (k + 2) (hL l List.mem_cons_self), List.map_cons,
      show k + 2 + 1 = k + 1 + 2 by omega,
      readLines_values (k + 1) L (fun l' hl' => hL l' (List.mem_cons_of_mem _ hl'))]

/-- The lines of a wrapped text: the naming line first, then a value line for each piece of the
text, from line 3 on; the empty line between is not kept. -/
theorem readLines_wrapText (text : String) {name : String} (hname : '\n' ∉ name.toList) :
    readLines (wrapText text name) =
      (1, some ⟨1, "0", "nm", trim name⟩) :: ((text.toList.splitOn '\n').zipIdx 1).map fun e =>
        (e.2 + 2, some ⟨e.2 + 2, toString e.2, "wl", trim (String.ofList e.1)⟩) := by
  have hnaming := readPiece_written 1 (x := '0') (a := []) (b := ['N', 'M']) (v := name.toList)
    (by decide) (by decide) (by decide) (by simpa using hname)
  have hnm : lower (trim (String.ofList [' ', 'N', 'M'])) = "nm" := by decide
  have hzero : trim (String.ofList ['0']) = "0" := by decide
  simp only [List.nil_append, List.cons_append, hnm, hzero, String.ofList_toList] at hnaming
  have hpieces : ∀ l ∈ text.toList.splitOn '\n', '\n' ∉ l := fun _ => not_mem_of_mem_splitOn
  rw [readLines_eq, splitOn_wrapText text hname, List.zipIdx_cons, List.zipIdx_cons,
    List.filterMap_cons, List.filterMap_cons, hnaming, show 1 + 1 + 1 = 1 + 2 from rfl,
    readLines_values 1 _ hpieces]
  rfl

/-! ## Reading a wrapped text -/

theorem Ledger.upsert_of_not_mem {α : Type} {k : String} (v : α) :
    ∀ {es : List (String × α)}, k ∉ es.map Prod.fst → Ledger.upsert k v es = es ++ [(k, v)]
  | [], _ => rfl
  | e :: es, h => by
    have hne : e.1 ≠ k := fun he => h (he ▸ List.mem_cons_self)
    rw [Ledger.upsert, if_neg hne,
      Ledger.upsert_of_not_mem v (fun hk => h (List.mem_cons_of_mem _ hk)), List.cons_append]

namespace Reading

section

variable {o : ReadOptions} {defer : Bool}

/-- A value line on a key not yet taken files its content as a text. -/
theorem readEntry_value (st : Reading) (k : Nat) {l : List Char} (hl : namesVariable l = false)
    (hfree : st.doc.content.contains (toString k) = false) :
    st.readEntry o defer (k + 2, some ⟨k + 2, toString k, "wl", trim (String.ofList l)⟩) =
      st.put (toString k) (.text "wl" (k + 2) (trim (String.ofList l))) := by
  have hsub := substitute_of_not_namesVariable st.scope.get?
    (namesVariable_trim (s := String.ofList l) (by simpa using hl))
  have hwl : Keyword.lookup? "wl" = some .wl := by decide
  simp only [readEntry, readLine, hsub, List.filter_nil, ite_self, hfree, hwl, isNumeral_toString]
  rfl

/-- The naming line of a wrapped text names the document by the name, trimmed. -/
theorem readEntry_naming (st : Reading) {name : String}
    (hname : namesVariable name.toList = false) :
    st.readEntry o defer (1, some ⟨1, "0", "nm", trim name⟩) =
      { st with doc := { st.doc with name := trim name } } := by
  have hsub := substitute_of_not_namesVariable st.scope.get? (namesVariable_trim hname)
  have hnm : Keyword.lookup? "nm" = some .nm := by decide
  -- the line is given whole: left open, elaborating `hnm` would unfold keyword lookup
  rw [readEntry, readLine_name (l := ⟨1, "0", "nm", trim name⟩) hnm (by rw [hsub]), hsub]

end

/-- The run lemma for value lines: on keys not yet taken, the value lines file their trimmed
pieces, in order, after the records already there, and leave the name as it is. -/
theorem foldl_readEntry_values (o : ReadOptions) (defer : Bool) :
    ∀ (L : List (List Char)) (k : Nat) (st : Reading), (∀ l ∈ L, namesVariable l = false) →
      (∀ i, k ≤ i → toString i ∉ st.doc.content.keys) →
      (((L.zipIdx k).map fun e =>
          (e.2 + 2, some ⟨e.2 + 2, toString e.2, "wl", trim (String.ofList e.1)⟩)).foldl
            (readEntry o defer) st).doc.name = st.doc.name ∧
        (((L.zipIdx k).map fun e =>
          (e.2 + 2, some ⟨e.2 + 2, toString e.2, "wl", trim (String.ofList e.1)⟩)).foldl
            (readEntry o defer) st).doc.content.entries =
          st.doc.content.entries ++ (L.zipIdx k).map fun e =>
            (toString e.2, .text "wl" (e.2 + 2) (trim (String.ofList e.1)))
  | [], _, _, _, _ => ⟨rfl, (List.append_nil _).symm⟩
  | l :: L, k, st, hL, hfresh => by
    have hk : toString k ∉ st.doc.content.keys := hfresh k (Nat.le_refl k)
    have hfree : st.doc.content.contains (toString k) = false := by
      simpa [Ledger.contains, Ledger.mem_keys_iff] using hk
    -- the key just filed is the only one added, and the later keys are other numerals
    have hfresh' : ∀ i, k + 1 ≤ i → toString i ∉
        (st.put (toString k) (.text "wl" (k + 2) (trim (String.ofList l)))).doc.content.keys := by
      intro i hi hmem
      rw [put, Ledger.keys_insert, if_neg hk, List.mem_append, List.mem_singleton] at hmem
      rcases hmem with hold | hnew
      · exact hfresh i (by omega) hold
      · have := toString_inj hnew
        omega
    have hrest := foldl_readEntry_values o defer L (k + 1) _
      (fun l' hl' => hL l' (List.mem_cons_of_mem _ hl')) hfresh'
    rw [List.zipIdx_cons, List.map_cons, List.foldl_cons,
      readEntry_value st k (hL l List.mem_cons_self) hfree, List.map_cons]
    refine ⟨hrest.1, ?_⟩
    rw [hrest.2]
    simp only [put, Ledger.insert, Ledger.upsert_of_not_mem _ hk, List.append_assoc,
      List.singleton_append]

end Reading

/-- A text read as a document: when no line of the text and not the name names a variable, and the
name has no line break, the document has no error, is named by the name trimmed, and holds under
the numeral `i` the `i`-th piece of the text between line breaks, trimmed, as a text from line
`i + 2`, in order; its values are the trimmed pieces. -/
theorem text_document_holds_trimmed_lines (c : Context) (text name : String)
    (hbreak : '\n' ∉ name.toList) (hname : namesVariable name.toList = false)
    (hlines : ∀ line ∈ text.toList.splitOn '\n', namesVariable line = false) :
    (c.textToDocument text name).doc.errors = [] ∧
      (c.textToDocument text name).doc.name = trim name ∧
      (c.textToDocument text name).doc.content.entries =
        ((text.toList.splitOn '\n').zipIdx 1).map (fun e =>
          (toString e.2, .text "wl" (e.2 + 2) (trim (String.ofList e.1)))) ∧
      (c.textToDocument text name).doc.values =
        (text.toList.splitOn '\n').map fun line => .text (trim (String.ofList line)) := by
  rw [Context.textToDocument, Document.read, readLines_wrapText text hbreak, List.foldl_cons,
    Reading.readEntry_naming _ hname]
  -- with no variable read, whether parameters are deferred plays no part
  generalize defersParameters _ _ = defer
  obtain ⟨hnamed, hentries⟩ := Reading.foldl_readEntry_values (c.readOptions false) defer
    (text.toList.splitOn '\n') 1 { doc := { name := trim name }, scope := c.variables } hlines
    (by simp [Ledger.keys])
  refine ⟨?_, hnamed, hentries, ?_⟩
  · rw [Document.errors, Ledger.values, hentries]
    simp [Record.error?]
  · rw [Document.values, Ledger.values, hentries]
    simp only [List.nil_append, List.filterMap_map, Function.comp_def, Record.value?]
    rw [List.filterMap_eq_map']
    conv_rhs => rw [← List.zipIdx_map_fst 1 (text.toList.splitOn '\n'), List.map_map]
    rfl

theorem text_document_holds_trimmed_lines_sample :
    '\n' ∉ " notes ".toList ∧ namesVariable " notes ".toList = false ∧
      (∀ line ∈ "a: b\n\t5 $ \n".toList.splitOn '\n', namesVariable line = false) ∧
      (({} : Context).textToDocument "a: b\n\t5 $ \n" " notes ").doc.name = "notes" ∧
      (({} : Context).textToDocument "a: b\n\t5 $ \n" " notes ").doc.content.entries =
        [("1", .text "wl" 3 "a: b"), ("2", .text "wl" 4 "5 $"), ("3", .text "wl" 5 "")] := by
  have hbreak : '\n' ∉ " notes ".toList := by decide
  have hname : namesVariable " notes ".toList = false := by decide
  have hlines : ∀ line ∈ "a: b\n\t5 $ \n".toList.splitOn '\n', namesVariable line = false := by
    decide
  obtain ⟨-, hnamed, hentries, -⟩ := text_document_holds_trimmed_lines {} _ _ hbreak hname hlines
  refine ⟨hbreak, hname, hlines, ?_, ?_⟩
  · rw [hnamed]
    decide
  · rw [hentries]
    decide

/-- A variable in the text is looked up, and a line break in the name starts a line of its own:
either way the wrapped text reads with an error. -/
theorem wrapped_text_reads_with_errors :
    (({} : Context).textToDocument "$v" "n").doc.errors =
        [⟨"none", 3, "Unknown variable '$v' (line:3)", .unknownVariable⟩] ∧
      (({} : Context).textToDocument "x" "two\nlines").doc.errors =
        [⟨"none", 2, "Invalid syntax (line:2)", .invalidSyntax⟩] := by
  constructor <;> decide +kernel

end Colonnade
