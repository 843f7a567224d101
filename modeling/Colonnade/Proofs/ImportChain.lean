import Colonnade.Proofs.Runs
import Colonnade.Proofs.Exports
/-! # An import chain that outgrows every budget

Cycles are cut only at a name already on the stack, and an imported source that exports grows the
store. The chain library here imports itself under a new name at every level, so every run of
`chainMain` ends on the budget (`import_chain_outgrows_every_budget`).
-/
namespace Colonnade

open Run Text

/-! ## Arguments read back -/

theorem dropBlanks_of_not_blank {c : Char} (hc : isBlank c = false) (cs : List Char) :
    dropBlanks (c :: cs) = c :: cs := by
  simp [dropBlanks, hc]

theorem dropBlanksEnd_of_not_blank {c : Char} (hc : isBlank c = false) (cs : List Char) :
    dropBlanksEnd (cs ++ [c]) = cs ++ [c] := by
  simp [dropBlanksEnd, dropBlanks, hc]

/-- Arguments joined by a comma and a blank are the arguments cut at the commas, each later one
behind its blank. -/
theorem toList_intercalate_args (a : String) (rest : List String) :
    (", ".intercalate (a :: rest)).toList =
      [','].intercalate (a.toList :: rest.map fun r => ' ' :: r.toList) := by
  induction rest generalizing a with
  | nil => simp
  | cons b rest ih =>
    rw [String.intercalate_cons_cons, String.toList_append, String.toList_append, ih b]
    simp

theorem toList_intercalate_last {args : List String} (h : args ≠ []) :
    ∃ pre, (", ".intercalate args).toList = pre ++ (args.getLast h).toList := by
  obtain ⟨init, z, rfl⟩ := List.eq_nil_or_concat args |>.resolve_left h
  simp only [List.concat_eq_append] at h ⊢
  by_cases hinit : init = []
  · subst hinit
    exact ⟨[], by simp⟩
  · refine ⟨(", ".intercalate init ++ ", ").toList, ?_⟩
    rw [String.intercalate_append_of_ne_nil hinit (List.cons_ne_nil z [])]
    simp

/-- An argument that reads back as written: not empty, with no comma and no blank. -/
def PlainArgument (a : String) : Prop := a ≠ "" ∧ ∀ c ∈ a.toList, c ≠ ',' ∧ isBlank c = false

instance (a : String) : Decidable (PlainArgument a) := inferInstanceAs (Decidable (_ ∧ _))

/-- Plain arguments written with a comma and a blank between them are read back as written. -/
theorem importArguments_intercalate {args : List String} (hne : args ≠ [])
    (hargs : ∀ a ∈ args, PlainArgument a) :
    importArguments (", ".intercalate args) = args := by
  have hstarts : ∀ a ∈ args, ∃ c cs, a.toList = c :: cs ∧ isBlank c = false := by
    intro a ha
    obtain ⟨c, cs, hc⟩ :=
      List.exists_cons_of_ne_nil (mt String.toList_eq_nil_iff.1 (hargs a ha).1)
    exact ⟨c, cs, hc, ((hargs a ha).2 c (by simp [hc])).2⟩
  have hends : ∀ a ∈ args, ∃ cs c, a.toList = cs ++ [c] ∧ isBlank c = false := by
    intro a ha
    obtain ⟨cs, c, hc⟩ := (List.eq_nil_or_concat a.toList).resolve_left
      (mt String.toList_eq_nil_iff.1 (hargs a ha).1)
    rw [List.concat_eq_append] at hc
    exact ⟨cs, c, hc, ((hargs a ha).2 c (by simp [hc])).2⟩
  -- the content neither starts nor ends with a blank, so trimming keeps it whole
  have htrim : (trim (", ".intercalate args)).toList = (", ".intercalate args).toList := by
    obtain ⟨pre, hpre⟩ := toList_intercalate_last hne
    obtain ⟨ds, d, hd, hdb⟩ := hends _ (List.getLast_mem hne)
    obtain ⟨a, rest, rfl⟩ := List.exists_cons_of_ne_nil hne
    obtain ⟨c, cs, hc, hcb⟩ := hstarts a List.mem_cons_self
    obtain ⟨tail, htail⟩ : ∃ tail, (", ".intercalate (a :: rest)).toList = c :: tail := by
      rw [toList_intercalate_args, hc]
      cases rest <;> simp
    simp only [trim, String.toList_ofList]
    rw [htail, dropBlanks_of_not_blank hcb, ← htail, hpre, hd, ← List.append_assoc,
      dropBlanksEnd_of_not_blank hdb]
  obtain ⟨a, rest, rfl⟩ := List.exists_cons_of_ne_nil hne
  -- cut at the commas: the first argument, then each later one behind its blank
  have hsplit : (", ".intercalate (a :: rest)).toList.splitOn ',' =
      a.toList :: rest.map fun r => ' ' :: r.toList := by
    rw [toList_intercalate_args]
    refine List.splitOn_intercalate ',' (fun l hl => ?_) (List.cons_ne_nil _ _)
    rcases List.mem_cons.1 hl with rfl | hl
    · exact fun h => ((hargs a List.mem_cons_self).2 ',' h).1 rfl
    · obtain ⟨r, hr, rfl⟩ := List.mem_map.1 hl
      simp only [List.mem_cons, not_or]
      exact ⟨by decide, fun h => ((hargs r (List.mem_cons_of_mem _ hr)).2 ',' h).1 rfl⟩
  simp only [importArguments, htrim, hsplit, String.ofList_toList, List.map_map, List.cons.injEq,
    true_and]
  refine (List.map_congr_left fun r hr => ?_).trans (List.map_id rest)
  obtain ⟨c, cs, hc, hcb⟩ := hstarts r (List.mem_cons_of_mem _ hr)
  have hblank : isBlank ' ' = true := by decide
  have hdrop : dropBlanks (' ' :: r.toList) = r.toList := by
    rw [hc]
    simp [dropBlanks, hblank, hcb]
  simp only [Function.comp, hdrop, String.ofList_toList, id]

/-! ## Lines read as their content -/

namespace Reading

variable {o : ReadOptions} {defer : Bool} {st : Reading} {l : Line}

/-- A line that names the document, with all its variables known, sets the document's name. -/
theorem readLine_name (hk : Keyword.lookup? l.keyword = some .nm)
    (hmissing : (substitute st.scope.get? l.content).missing = []) :
    st.readLine o defer l =
      { st with doc := { st.doc with name := (substitute st.scope.get? l.content).text } } := by
  have hwl : (some Keyword.nm == some Keyword.wl) = false := by decide
  have hcat : (Keyword.nm.category == Keyword.Category.array) = false := by decide
  unfold readLine
  simp only [hmissing, List.filter_nil, ite_self, hk, hwl, Bool.and_false, Bool.false_eq_true,
    if_false, hcat]
  rfl

/-- An import or export line on a free identifier, with all its variables known, writes the
command with its content substituted. -/
theorem readLine_command {k : Keyword} (hk : Keyword.lookup? l.keyword = some k)
    (hkc : k = .im ∨ k = .ex) (hmissing : (substitute st.scope.get? l.content).missing = [])
    (hfree : st.doc.content.get? l.identifier = none) :
    st.readLine o defer l =
      st.put l.identifier
        (.command l.keyword l.number (substitute st.scope.get? l.content).text) := by
  have hocc : st.doc.content.contains l.identifier = false := by simp [Ledger.contains, hfree]
  unfold readLine
  rcases hkc with rfl | rfl
  all_goals
    simp +decide only [hmissing, List.filter_nil, ite_self, hk, hocc, if_false]
    rfl

end Reading

/-! ## The chain -/

/-- The chain library: named by its first parameter, it imports what its second parameter names
and then what its third names, each with the name grown by a point, and ends on an export of its
fourth parameter. -/
def chainLibrary : String :=
  "n: NM: $0001\n1: IM: $0002, $0001., nil, nil, default\n2: IM: $0003, $0001., mk, $0001.., z\n" ++
    "3: EX: $0004"

/-- A library that only names itself. -/
def quietLibrary : String := "0: NM: nil"

/-- The names the chain pushes: `a`, `a.`, `a..`, and so on. -/
def chainName (k : Nat) : String := String.ofList ('a' :: List.replicate k '.')

theorem chainName_append_point (k : Nat) : chainName k ++ "." = chainName (k + 1) := by
  rw [← String.toList_inj]
  simp [chainName, List.replicate_succ']

theorem chainName_append_points (k : Nat) : chainName k ++ ".." = chainName (k + 2) := by
  rw [← String.toList_inj]
  simp [chainName, List.replicate_succ']

theorem chainName_injective {i j : Nat} (h : chainName i = chainName j) : i = j := by
  have hlen := congrArg (fun s => s.toList.length) h
  simpa [chainName] using hlen

theorem chainName_ne_mk (k : Nat) : chainName k ≠ "mk" := by
  intro h
  have := congrArg (fun s => s.toList.head?) h
  simp [chainName] at this

theorem chainName_ne_nil (k : Nat) : chainName k ≠ "nil" := by
  intro h
  have := congrArg (fun s => s.toList.head?) h
  simp [chainName] at this

theorem chainWords_plain :
    PlainArgument "nil" ∧ PlainArgument "mk" ∧ PlainArgument "default" ∧
      PlainArgument "z" := by
  simp [PlainArgument, isBlank, inRanges, blankRanges]

theorem chainName_plain (k : Nat) : PlainArgument (chainName k) := by
  refine ⟨fun h => ?_, fun c hc => ?_⟩
  · have := congrArg (fun s => s.toList.length) h
    simp [chainName] at this
  · simp only [chainName, String.toList_ofList, List.mem_cons, List.mem_replicate] at hc
    rcases hc with rfl | ⟨-, rfl⟩ <;> exact ⟨by decide, by decide⟩

/-- The first import of the chain library reads back its arguments, the name grown by a point. -/
theorem chainImport₁_arguments (k : Nat) {X : String} (hX : PlainArgument X) :
    importArguments (", ".intercalate [X, chainName k ++ ".", "nil", "nil", "default"]) =
      [X, chainName (k + 1), "nil", "nil", "default"] := by
  rw [chainName_append_point]
  have hne : [X, chainName (k + 1), "nil", "nil", "default"] ≠ [] := List.cons_ne_nil _ _
  refine importArguments_intercalate hne fun a ha => ?_
  simp only [List.mem_cons, List.not_mem_nil, or_false] at ha
  rcases ha with rfl | rfl | rfl | rfl | rfl
  · exact hX
  · exact chainName_plain _
  · exact chainWords_plain.1
  · exact chainWords_plain.1
  · exact chainWords_plain.2.2.1

/-- The second import of the chain library reads back its arguments, the name grown by one point
and by two. -/
theorem chainImport₂_arguments (k : Nat) {Y : String} (hY : PlainArgument Y) :
    importArguments (", ".intercalate [Y, chainName k ++ ".", "mk", chainName k ++ "..", "z"]) =
      [Y, chainName (k + 1), "mk", chainName (k + 2), "z"] := by
  rw [chainName_append_point, chainName_append_points]
  have hne : [Y, chainName (k + 1), "mk", chainName (k + 2), "z"] ≠ [] := List.cons_ne_nil _ _
  refine importArguments_intercalate hne fun a ha => ?_
  simp only [List.mem_cons, List.not_mem_nil, or_false] at ha
  rcases ha with rfl | rfl | rfl | rfl | rfl
  · exact hY
  · exact chainName_plain _
  · exact chainWords_plain.2.1
  · exact chainName_plain _
  · exact chainWords_plain.2.2.2

section Reading

variable (o : ReadOptions) (P X Y Z : String)

theorem importParameters_four :
    importParameters [P, X, Y, Z] =
      (((({} : Ledger String).insert "0001" P).insert "0002" X).insert "0003" Y).insert "0004" Z :=
  rfl

theorem readLines_chainLibrary : readLines chainLibrary =
    [(1, some ⟨1, "n", "nm", "$0001"⟩),
      (2, some ⟨2, "1", "im", "$0002, $0001., nil, nil, default"⟩),
      (3, some ⟨3, "2", "im", "$0003, $0001., mk, $0001.., z"⟩),
      (4, some ⟨4, "3", "ex", "$0004"⟩)] := by
  decide +kernel

/-- The records of the chain library read with four parameters. -/
def chainRecords : Ledger Record :=
  ((({} : Ledger Record).insert "1"
      (.command "im" 2 (", ".intercalate [X, P ++ ".", "nil", "nil", "default"]))).insert "2"
      (.command "im" 3 (", ".intercalate [Y, P ++ ".", "mk", P ++ "..", "z"]))).insert "3"
    (.command "ex" 4 Z)

/-- With four parameters the chain library names itself by the first and writes its two imports
and its export, the parameters put in. -/
theorem read_chainLibrary :
    Document.read o (importParameters [P, X, Y, Z]) chainLibrary =
      ⟨⟨P, chainRecords P X Y Z⟩, importParameters [P, X, Y, Z]⟩ := by
  have hdefer : defersParameters o (readLines chainLibrary) = false := by
    simp only [defersParameters, readLines_chainLibrary]
    simp [Line.isDefaultExport, exportDefault]
  have h1 : (importParameters [P, X, Y, Z]).get? "0001" = some P := by
    simp [importParameters_four, Ledger.get?_insert_of_ne]
  have h2 : (importParameters [P, X, Y, Z]).get? "0002" = some X := by
    simp [importParameters_four, Ledger.get?_insert_of_ne]
  have h3 : (importParameters [P, X, Y, Z]).get? "0003" = some Y := by
    simp [importParameters_four, Ledger.get?_insert_of_ne]
  have h4 : (importParameters [P, X, Y, Z]).get? "0004" = some Z := by
    simp [importParameters_four]
  have hs1 : substitute (importParameters [P, X, Y, Z]).get? "$0001" = ⟨P, []⟩ := by
    simp [substitute, substituteChars, isNameChar, h1]
  have hs2 : substitute (importParameters [P, X, Y, Z]).get? "$0002, $0001., nil, nil, default" =
      ⟨", ".intercalate [X, P ++ ".", "nil", "nil", "default"], []⟩ := by
    simp [substitute, substituteChars, isNameChar, h1, h2, String.intercalate_cons_cons]
    rw [← String.toList_inj]
    simp
  have hs3 : substitute (importParameters [P, X, Y, Z]).get? "$0003, $0001., mk, $0001.., z" =
      ⟨", ".intercalate [Y, P ++ ".", "mk", P ++ "..", "z"], []⟩ := by
    simp [substitute, substituteChars, isNameChar, h1, h3, String.intercalate_cons_cons]
    rw [← String.toList_inj]
    simp
  have hs4 : substitute (importParameters [P, X, Y, Z]).get? "$0004" = ⟨Z, []⟩ := by
    simp [substitute, substituteChars, isNameChar, h4]
  -- the name line, then the two imports and the export, each on a free identifier
  let r₁ : Reading := ⟨⟨P, {}⟩, importParameters [P, X, Y, Z]⟩
  let r₂ :=
    r₁.put "1" (.command "im" 2 (", ".intercalate [X, P ++ ".", "nil", "nil", "default"]))
  let r₃ := r₂.put "2" (.command "im" 3 (", ".intercalate [Y, P ++ ".", "mk", P ++ "..", "z"]))
  have e₁ : Reading.readLine o false { scope := importParameters [P, X, Y, Z] }
      ⟨1, "n", "nm", "$0001"⟩ = r₁ := by
    rw [Reading.readLine_name (by decide) (by simp only [hs1])]
    simp only [hs1]
    rfl
  have e₂ :
      r₁.readLine o false ⟨2, "1", "im", "$0002, $0001., nil, nil, default"⟩ = r₂ := by
    rw [Reading.readLine_command (by decide) (.inl rfl) (by simp only [r₁, hs2]) rfl]
    simp only [r₁, hs2]
    rfl
  have e₃ : r₂.readLine o false ⟨3, "2", "im", "$0003, $0001., mk, $0001.., z"⟩ = r₃ := by
    rw [Reading.readLine_command (by decide) (.inl rfl)
      (by simp only [r₂, r₁, Reading.put, hs3])
      (by simp [r₂, r₁, Reading.put, Ledger.get?_insert_of_ne])]
    simp only [r₂, r₁, Reading.put, hs3]
    rfl
  have e₄ : r₃.readLine o false ⟨4, "3", "ex", "$0004"⟩ =
      ⟨⟨P, chainRecords P X Y Z⟩, importParameters [P, X, Y, Z]⟩ := by
    rw [Reading.readLine_command (by decide) (.inr rfl)
      (by simp only [r₃, r₂, r₁, Reading.put, hs4])
      (by simp [r₃, r₂, r₁, Reading.put, Ledger.get?_insert_of_ne])]
    simp only [r₃, r₂, r₁, Reading.put, hs4]
    rfl
  simp only [Document.read]
  rw [hdefer, readLines_chainLibrary]
  simp only [List.foldl_cons, List.foldl_nil, Reading.readEntry]
  rw [e₁, e₂, e₃, e₄]

theorem chainRecords_values :
    (chainRecords P X Y Z).values =
      [.command "im" 2 (", ".intercalate [X, P ++ ".", "nil", "nil", "default"]),
        .command "im" 3 (", ".intercalate [Y, P ++ ".", "mk", P ++ "..", "z"]),
        .command "ex" 4 Z] := by
  simp [chainRecords, Ledger.values, Ledger.insert, Ledger.upsert]

theorem chainRecords_errors : (⟨P, chainRecords P X Y Z⟩ : Document).errors = [] := by
  simp [Document.errors, chainRecords_values, Record.error?]

theorem chainRecords_docValues : (⟨P, chainRecords P X Y Z⟩ : Document).values = [] := by
  simp [Document.values, chainRecords_values, Record.value?]

/-- The quiet library names itself and writes nothing. -/
theorem read_quietLibrary (ps : Ledger String) :
    Document.read o ps quietLibrary = ⟨⟨"nil", {}⟩, ps⟩ := by
  have hlines : readLines quietLibrary = [(1, some ⟨1, "0", "nm", "nil"⟩)] := by decide +kernel
  have hsub : substitute ps.get? "nil" = ⟨"nil", []⟩ := substitute_of_no_dollar _ (by decide)
  simp only [Document.read, hlines, List.foldl_cons, List.foldl_nil, Reading.readEntry]
  rw [Reading.readLine_name (by decide) (by rw [hsub]), hsub]

end Reading

theorem stripDefaultExports_chainLibrary : stripDefaultExports chainLibrary = chainLibrary := by
  decide +kernel

/-- A run of the quiet library in an import gives nothing and leaves the machine as it was. -/
theorem quietRun_on (n : Nat) (ps : Ledger String) (stack : List String) (m : Machine) :
    (runWithin (n + 1) quietLibrary { parameters := some ps, stack := stack }).on m =
      (.ok [], m) := by
  show (runWith (runWithin n) quietLibrary { parameters := some ps, stack := stack }).on m = _
  rw [runWith_on_params (read_quietLibrary _ ps) rfl]
  rfl

/-- The machine once `chainName k` is stored with the chain library as its source. -/
def chainStored (k : Nat) (m : Machine) : Machine :=
  { m with context := { m.context with files := ⟨m.context.files.files.insert (chainName k)
      ⟨chainName k, chainRecords (chainName k) "nil" "nil" "default", chainLibrary⟩⟩ } }

theorem chainStored_get? (k : Nat) (m : Machine) (x : String) :
    (chainStored k m).context.files.get? x =
      if x = chainName k then
        some ⟨chainName k, chainRecords (chainName k) "nil" "nil" "default", chainLibrary⟩
      else m.context.files.get? x := by
  by_cases hx : x = chainName k
  · subst hx
    simp [chainStored, Store.get?]
  · simp [chainStored, Store.get?, hx, Ledger.get?_insert_of_ne]

/-- Imported with a name and `nil, nil, default`, the chain library imports the quiet library
twice and exports under the name; with a budget under two levels it runs out. -/
theorem exportRun_on (n k : Nat) (stack : List String) (m : Machine)
    (hquiet : ∃ f, m.context.files.get? "nil" = some f ∧ f.source = quietLibrary)
    (hstack : "nil" ∉ stack) (hfree : m.context.files.get? (chainName k) = none) :
    (runWithin n chainLibrary { parameters := some (importParameters
        [chainName k, "nil", "nil", "default"]), stack := stack }).on m =
      if n < 2 then (.error .tooDeep, m) else (.ok [], chainStored k m) := by
  obtain ⟨fq, hfq, hsrc⟩ := hquiet
  have hargs₁ := chainImport₁_arguments k chainWords_plain.1
  have hargs₂ := chainImport₂_arguments k chainWords_plain.1
  have hexport : (exportDocument ⟨chainName k, chainRecords (chainName k) "nil" "nil" "default"⟩
      chainLibrary "default").on m = (.ok [], chainStored k m) := by
    refine (exportDocument_on_free (chainName_plain k).1 hfree).trans ?_
    rw [chainRecords_docValues, stripDefaultExports_chainLibrary]
    rfl
  rcases n with _ | n
  · rfl
  show (runWith (runWithin n) chainLibrary _).on m = _
  rw [runWith_on_params (read_chainLibrary _ _ _ _ _) (chainRecords_errors _ _ _ _),
    chainRecords_values]
  rcases n with _ | n
  -- one level: the first import of the quiet library runs out
  · have himport : (importExport (runWithin 0) (", ".intercalate ["nil", chainName k ++ ".",
        "nil", "nil", "default"]) stack).on m = (.error .tooDeep, m) := by
      rw [importExport_on_args hargs₁ hfq hstack]
      rfl
    rw [Run.on_map_of_error (walk_import_of_error himport)]
    rfl
  -- two levels or more: both imports give nothing, then the export stores the name
  · have hquietImport : ∀ {c rest}, importArguments c = "nil" :: rest →
        (importExport (runWithin (n + 1)) c stack).on m = (.ok [], m) := fun hc => by
      rw [importExport_on_args hc hfq hstack, hsrc, quietRun_on]
    rw [Run.on_map, walk_import_of_ok (hquietImport hargs₁),
      walk_import_of_ok (hquietImport hargs₂), walk_export, Run.on_map_of_ok hexport,
      if_neg (by omega)]
    rfl

/-- What the chain needs of the machine and the stack at its `k`-th link: the chain library under
`mk`, the quiet library under `nil`, no name past the `k`-th in the store, and only names up to
the `k`-th on the stack. -/
structure ChainReady (k : Nat) (stack : List String) (m : Machine) : Prop where
  library : ∃ f, m.context.files.get? "mk" = some f ∧ f.source = chainLibrary
  quiet : ∃ f, m.context.files.get? "nil" = some f ∧ f.source = quietLibrary
  fresh : ∀ j, k < j → m.context.files.get? (chainName j) = none
  stack : ∀ x ∈ stack, ∃ j ≤ k, x = chainName j

/-- Storing the `k`-th name and pushing it makes a machine ready for the `k`-th link. -/
theorem ChainReady.of_stored {k : Nat} {stack : List String} {m : Machine}
    (hlib : ∃ f, m.context.files.get? "mk" = some f ∧ f.source = chainLibrary)
    (hquiet : ∃ f, m.context.files.get? "nil" = some f ∧ f.source = quietLibrary)
    (hfresh : ∀ j, k < j → m.context.files.get? (chainName j) = none)
    (hstack : ∀ x ∈ stack, ∃ j < k, x = chainName j) :
    ChainReady k (stack ++ [chainName k]) (chainStored k m) where
  library := by
    obtain ⟨f, hf, hs⟩ := hlib
    exact ⟨f, by rw [chainStored_get?, if_neg (chainName_ne_mk k).symm, hf], hs⟩
  quiet := by
    obtain ⟨f, hf, hs⟩ := hquiet
    exact ⟨f, by rw [chainStored_get?, if_neg (chainName_ne_nil k).symm, hf], hs⟩
  fresh j hj := by
    have hne : chainName j ≠ chainName k := fun h => by
      have := chainName_injective h
      omega
    rw [chainStored_get?, if_neg hne, hfresh j hj]
  stack x hx := by
    rcases List.mem_append.1 hx with hx | hx
    · obtain ⟨j, hj, rfl⟩ := hstack x hx
      exact ⟨j, by omega, rfl⟩
    · exact ⟨k, Nat.le_refl _, List.mem_singleton.1 hx⟩

/-- One link of the chain: an import of `mk` that exports the `k`-th name, then an import of that
name one level deeper. When the `k`-th link itself runs out of budget, so does the walk. -/
theorem chainLink_outOfBudget (n k : Nat) {doc : Document} {source : String}
    {stack : List String} {m : Machine} {l₁ l₂ : Nat} {c₁ c₂ : String} {rest : List Record}
    {acc : List Value}
    (hlib : ∃ f, m.context.files.get? "mk" = some f ∧ f.source = chainLibrary)
    (hquiet : ∃ f, m.context.files.get? "nil" = some f ∧ f.source = quietLibrary)
    (hfresh : ∀ j, k ≤ j → m.context.files.get? (chainName j) = none)
    (hstack : ∀ x ∈ stack, ∃ j < k, x = chainName j)
    (hc₁ : importArguments c₁ = ["mk", chainName k, "nil", "nil", "default"])
    (hc₂ : importArguments c₂ = [chainName k, chainName k, "mk", chainName (k + 1), "z"])
    (hnext : ∀ stack' m', ChainReady k stack' m' →
      ((runWithin n chainLibrary { parameters := some (importParameters
        [chainName k, "mk", chainName (k + 1), "z"]), stack := stack' }).on m').1 =
        .error .tooDeep) :
    ((walk (runWithin n) doc source stack
      (.command "im" l₁ c₁ :: .command "im" l₂ c₂ :: rest) acc).on m).1 =
      .error .tooDeep := by
  obtain ⟨fl, hfl, hsrc⟩ := hlib
  have hmk : "mk" ∉ stack := fun h => by
    obtain ⟨j, -, hj⟩ := hstack _ h
    exact chainName_ne_mk j hj.symm
  have hnil : "nil" ∉ stack ++ ["mk"] := fun h => by
    rcases List.mem_append.1 h with h | h
    · obtain ⟨j, -, hj⟩ := hstack _ h
      exact chainName_ne_nil j hj.symm
    · exact absurd (List.mem_singleton.1 h) (by decide)
  have hout : chainName k ∉ stack := fun h => by
    obtain ⟨j, hj, he⟩ := hstack _ h
    have := chainName_injective he
    omega
  -- the first import exports the chain library again, under the `k`-th name
  have himport : (importExport (runWithin n) c₁ stack).on m =
      if n < 2 then (.error .tooDeep, m) else (.ok [], chainStored k m) := by
    rw [importExport_on_args hc₁ hfl hmk, hsrc,
      exportRun_on n k _ m hquiet hnil (hfresh k (Nat.le_refl k))]
  by_cases hn : n < 2
  · rw [if_pos hn] at himport
    rw [walk_import_of_error himport]
  · rw [if_neg hn] at himport
    -- the second import enters the name just stored, one link further down
    have hstored : (chainStored k m).context.files.get? (chainName k) =
        some ⟨chainName k, chainRecords (chainName k) "nil" "nil" "default", chainLibrary⟩ := by
      rw [chainStored_get?, if_pos rfl]
    rw [walk_import_of_ok himport, walk_import]
    apply Run.on_bind_fst_of_error
    rw [importExport_on_args hc₂ hstored hout]
    exact hnext _ _ (.of_stored ⟨fl, hfl, hsrc⟩ hquiet (fun j hj => hfresh j (by omega)) hstack)

/-- Imported as the `k`-th link, the chain library runs out of every budget. -/
theorem chainRun_outOfBudget (n : Nat) : ∀ (k : Nat) (stack : List String) (m : Machine),
    ChainReady k stack m →
      ((runWithin n chainLibrary { parameters := some (importParameters
        [chainName k, "mk", chainName (k + 1), "z"]), stack := stack }).on m).1 =
        .error .tooDeep := by
  induction n with
  | zero => intro k stack m _; rfl
  | succ n ih =>
    intro k stack m hready
    show ((runWith (runWithin n) chainLibrary _).on m).1 = _
    rw [runWith_on_params (read_chainLibrary _ _ _ _ _) (chainRecords_errors _ _ _ _),
      chainRecords_values]
    apply Run.on_map_fst_of_error
    exact chainLink_outOfBudget n (k + 1) hready.library hready.quiet
      (fun j hj => hready.fresh j (by omega))
      (fun x hx => by obtain ⟨j, hj, rfl⟩ := hready.stack x hx; exact ⟨j, by omega, rfl⟩)
      (chainImport₁_arguments k chainWords_plain.2.1)
      (chainImport₂_arguments k (chainName_plain _))
      (ih (k + 1))

/-- A source that starts the chain at the top: it imports `mk` so that it exports under `a`, then
imports `a`. -/
def chainMain : String := "1: IM: mk, a, nil, nil, default\n2: IM: a, a, mk, a., z"

/-- A machine whose store holds the chain library under `mk`, the quiet library under `nil`, and
nothing else. -/
def chainStart : Machine :=
  { context := { files := ⟨(({} : Ledger ExportedFile).insert "nil" ⟨"nil", {}, quietLibrary⟩).insert
      "mk" ⟨"mk", {}, chainLibrary⟩⟩ } }

/-- The store holds two names, and still no budget is enough for `chainMain`: each link exports
one more name and enters it, so every run ends on the budget. -/
theorem import_chain_outgrows_every_budget :
    chainStart.context.files.names.length = 2 ∧
      ∀ n, ((runWithin n chainMain {}).on chainStart).1 = .error .tooDeep := by
  refine ⟨rfl, fun n => ?_⟩
  rcases n with _ | n
  · rfl
  have hlib : ∃ f, chainStart.context.files.get? "mk" = some f ∧ f.source = chainLibrary :=
    ⟨⟨"mk", {}, chainLibrary⟩, by simp [chainStart, Store.get?], rfl⟩
  have hquiet : ∃ f, chainStart.context.files.get? "nil" = some f ∧ f.source = quietLibrary :=
    ⟨⟨"nil", {}, quietLibrary⟩,
      by simp [chainStart, Store.get?, Ledger.get?_insert_of_ne], rfl⟩
  have hfresh : ∀ j, 0 ≤ j → chainStart.context.files.get? (chainName j) = none :=
    fun j _ => by
      simp [chainStart, Store.get?, Ledger.get?_insert_of_ne _ _ (chainName_ne_mk j),
        Ledger.get?_insert_of_ne _ _ (chainName_ne_nil j)]
  have hc₁ : importArguments "mk, a, nil, nil, default" =
      ["mk", chainName 0, "nil", "nil", "default"] := by decide +kernel
  have hc₂ : importArguments "a, a, mk, a., z" =
      [chainName 0, chainName 0, "mk", chainName (0 + 1), "z"] := by decide +kernel
  -- at the top the source reads as its two imports, and the reading declares nothing
  have herrors : (Frame.reading {} chainStart.context chainMain).doc.errors = [] := by
    decide +kernel
  have hrecords : (Frame.reading {} chainStart.context chainMain).doc.content.values =
      [.command "im" 1 "mk, a, nil, nil, default", .command "im" 2 "a, a, mk, a., z"] := by
    decide +kernel
  have hafter : Frame.afterReading {} chainStart chainMain = chainStart := by
    have hscope : (Frame.reading {} chainStart.context chainMain).scope = {} := by decide +kernel
    simp only [Frame.afterReading, Option.isNone_none, if_true, hscope]
    rfl
  show ((runWith (runWithin n) chainMain {}).on chainStart).1 = _
  simp only [runWith_on, herrors, hrecords, hafter]
  apply Run.on_map_fst_of_error
  exact chainLink_outOfBudget n 0 hlib hquiet hfresh (fun x hx => by cases hx) hc₁ hc₂
    (chainRun_outOfBudget n 0)

end Colonnade
