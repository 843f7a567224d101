import Colonnade.Proofs.Exports
/-! # Substitution reads a text as pieces

A text reads from left to right as maximal pieces: `$` with the longest run of name characters
after it, or one character. Every text has exactly one such `Scan`, and substitution renders it
piece by piece without reading a value again (`substitute_follows_scan`).
-/
namespace Colonnade

/-- A piece of a text as substitution reads it. -/
inductive Piece where
  | char (c : Char)
  | var (name : List Char)
  deriving DecidableEq, Repr

namespace Piece

/-- What a piece becomes: a named variable with a value becomes the value; all else stays. -/
def render (lookup : String → Option String) : Piece → List Char
  | .char c => [c]
  | .var name => ((lookup (String.ofList name)).map String.toList).getD ('$' :: name)

/-- The name that a piece reports missing: that of a named variable without a value. -/
def missing (lookup : String → Option String) : Piece → Option String
  | .char _ => none
  | .var name => if (lookup (String.ofList name)).isSome then none else some (String.ofList name)

end Piece

def startsName (cs : List Char) : Bool := cs.head?.any isNameChar

/-- The reading of a text into pieces from left to right, each piece as long as it can be: a
character other than `$` stands alone, so does a `$` that no name character follows, and any other
`$` names the whole run of name characters after it. -/
inductive Scan : List Char → List Piece → Prop
  | nil : Scan [] []
  | plain {c : Char} {rest : List Char} {ps : List Piece} (hc : c ≠ '$') :
      Scan rest ps → Scan (c :: rest) (.char c :: ps)
  | lone {rest : List Char} {ps : List Piece} (hrest : startsName rest = false) :
      Scan rest ps → Scan ('$' :: rest) (.char '$' :: ps)
  | var {name rest : List Char} {ps : List Piece} (hne : name ≠ [])
      (hname : name.all isNameChar = true) (hrest : startsName rest = false) :
      Scan rest ps → Scan ('$' :: (name ++ rest)) (.var name :: ps)

/-! ## A maximal run of name characters -/

theorem takeWhile_eq_nil_iff_startsName (rest : List Char) :
    rest.takeWhile isNameChar = [] ↔ startsName rest = false := by
  cases rest with
  | nil => simp [startsName]
  | cons c cs => cases hc : isNameChar c <;> simp [startsName, hc]

theorem dropWhile_eq_self_of_startsName {rest : List Char} (h : startsName rest = false) :
    rest.dropWhile isNameChar = rest := by
  cases rest with
  | nil => rfl
  | cons c cs =>
    have hc : isNameChar c = false := h
    simp [hc]

theorem takeWhile_maximal {name rest : List Char} (hname : name.all isNameChar = true)
    (hrest : startsName rest = false) : (name ++ rest).takeWhile isNameChar = name := by
  rw [List.takeWhile_append_of_pos (by simpa using hname),
    (takeWhile_eq_nil_iff_startsName rest).2 hrest, List.append_nil]

theorem dropWhile_maximal {name rest : List Char} (hname : name.all isNameChar = true)
    (hrest : startsName rest = false) : (name ++ rest).dropWhile isNameChar = rest := by
  rw [List.dropWhile_append_of_pos (by simpa using hname), dropWhile_eq_self_of_startsName hrest]

/-- What stays after a run of name characters does not start with one. -/
theorem startsName_dropWhile (cs : List Char) : startsName (cs.dropWhile isNameChar) = false := by
  have h := List.head?_dropWhile_not isNameChar cs
  unfold startsName
  cases hd : (cs.dropWhile isNameChar).head? with
  | none => rfl
  | some x =>
    rw [hd] at h
    exact h

/-! ## Substitution piece by piece -/

section Steps

variable (lookup : String → Option String)

theorem substituteChars_plain {c : Char} (rest : List Char) (hc : c ≠ '$') :
    substituteChars lookup (c :: rest) =
      (c :: (substituteChars lookup rest).1, (substituteChars lookup rest).2) := by
  rw [substituteChars, if_neg hc]

theorem substituteChars_lone {rest : List Char} (hrest : startsName rest = false) :
    substituteChars lookup ('$' :: rest) =
      ('$' :: (substituteChars lookup rest).1, (substituteChars lookup rest).2) := by
  rw [substituteChars, if_pos rfl, (takeWhile_eq_nil_iff_startsName rest).2 hrest]
  rfl

theorem substituteChars_var {name rest : List Char} (hne : name ≠ [])
    (hname : name.all isNameChar = true) (hrest : startsName rest = false) :
    substituteChars lookup ('$' :: (name ++ rest)) =
      ((Piece.var name).render lookup ++ (substituteChars lookup rest).1,
        ((Piece.var name).missing lookup).toList ++ (substituteChars lookup rest).2) := by
  have hempty : name.isEmpty = false := by simpa using hne
  rw [substituteChars, if_pos rfl, takeWhile_maximal hname hrest, dropWhile_maximal hname hrest]
  simp only [hempty, Bool.false_eq_true, if_false]
  cases hv : lookup (String.ofList name) <;> simp [Piece.render, Piece.missing, hv]

end Steps

/-- The run lemma: substitution is the scan rendered, its missing names those of the pieces. -/
theorem substituteChars_of_scan (lookup : String → Option String) {cs : List Char}
    {ps : List Piece} (h : Scan cs ps) :
    substituteChars lookup cs =
      (ps.flatMap (Piece.render lookup), ps.filterMap (Piece.missing lookup)) := by
  induction h with
  | nil => rw [substituteChars]; rfl
  | plain hc _ ih =>
    simp [substituteChars_plain lookup _ hc, ih, Piece.render, List.filterMap_cons, Piece.missing]
  | lone hrest _ ih =>
    simp [substituteChars_lone lookup hrest, ih, Piece.render, List.filterMap_cons, Piece.missing]
  | @var name rest ps hne hname hrest _ ih =>
    rw [substituteChars_var lookup hne hname hrest, ih, List.flatMap_cons, List.filterMap_cons]
    cases hm : (Piece.var name).missing lookup <;> simp

/-! ## One scan for every text -/

theorem scan_exists : ∀ cs : List Char, ∃ ps, Scan cs ps
  | [] => ⟨[], .nil⟩
  | c :: rest => by
    by_cases hc : c = '$'
    · subst hc
      cases hname : rest.takeWhile isNameChar with
      | nil =>
        -- no name character after the `$`
        obtain ⟨ps, hps⟩ := scan_exists rest
        exact ⟨_, .lone ((takeWhile_eq_nil_iff_startsName rest).1 hname) hps⟩
      | cons x xs =>
        -- the `$` names the run of name characters after it
        have hsplit : rest = (x :: xs) ++ rest.dropWhile isNameChar := by
          rw [← hname, List.takeWhile_append_dropWhile]
        have hall : (x :: xs).all isNameChar = true := hname ▸ List.all_takeWhile
        have : (rest.dropWhile isNameChar).length < rest.length + 1 := by
          have := (List.dropWhile_suffix isNameChar (l := rest)).length_le
          omega
        obtain ⟨ps, hps⟩ := scan_exists (rest.dropWhile isNameChar)
        refine ⟨.var (x :: xs) :: ps, ?_⟩
        rw [hsplit]
        exact .var (List.cons_ne_nil x xs) hall (startsName_dropWhile rest) hps
    · obtain ⟨ps, hps⟩ := scan_exists rest
      exact ⟨_, .plain hc hps⟩
termination_by cs => cs.length

/-- A run of name characters that no name character follows is the same run, wherever it is
read. -/
theorem maximal_run_unique {name rest name' rest' : List Char} (h : name ++ rest = name' ++ rest')
    (hname : name.all isNameChar = true) (hrest : startsName rest = false)
    (hname' : name'.all isNameChar = true) (hrest' : startsName rest' = false) :
    name = name' ∧ rest = rest' := by
  have hn : name = name' := by
    rw [← takeWhile_maximal hname hrest, h, takeWhile_maximal hname' hrest']
  exact ⟨hn, List.append_cancel_left (hn ▸ h)⟩

theorem startsName_append {name rest : List Char} (hne : name ≠ [])
    (hname : name.all isNameChar = true) : startsName (name ++ rest) = true := by
  cases name with
  | nil => exact absurd rfl hne
  | cons x xs =>
    simp only [List.all_cons, Bool.and_eq_true] at hname
    exact hname.1

/-- A scan of a text that starts with `$` reads it alone or as the start of a name. -/
theorem Scan.dollar_cases {rest : List Char} {ps : List Piece} (h : Scan ('$' :: rest) ps) :
    (startsName rest = false ∧ ∃ ps', ps = .char '$' :: ps' ∧ Scan rest ps') ∨
      ∃ name rest' ps', rest = name ++ rest' ∧ name ≠ [] ∧ name.all isNameChar = true ∧
        startsName rest' = false ∧ ps = .var name :: ps' ∧ Scan rest' ps' := by
  cases h with
  | plain hc => exact absurd rfl hc
  | lone hrest h' => exact .inl ⟨hrest, _, rfl, h'⟩
  | var hne hname hrest h' => exact .inr ⟨_, _, _, rfl, hne, hname, hrest, rfl, h'⟩

theorem Scan.unique {cs : List Char} {ps ps' : List Piece} (h : Scan cs ps) (h' : Scan cs ps') :
    ps = ps' := by
  induction h generalizing ps' with
  | nil => cases h'; rfl
  | plain hc _ ih =>
    cases h' with
    | plain _ h'' => rw [ih h'']
    | lone => exact absurd rfl hc
    | var => exact absurd rfl hc
  | lone hrest _ ih =>
    rcases h'.dollar_cases with
      ⟨-, ps'', rfl, h''⟩ | ⟨name, rest', ps'', rfl, hne, hname, -⟩
    · rw [ih h'']
    · simp [startsName_append hne hname] at hrest
  | var hne hname hrest _ ih =>
    rcases h'.dollar_cases with
      ⟨hrest', -⟩ | ⟨name', rest', ps'', heq, -, hname', hrest', rfl, h''⟩
    · simp [startsName_append hne hname] at hrest'
    · obtain ⟨rfl, rfl⟩ := maximal_run_unique heq hname hrest hname' hrest'
      rw [ih h'']

/-- Substitution follows the left-to-right scan of its text: every text has exactly one scan into
maximal pieces, the result is the scan with each named variable that has a value replaced by the
value and every other piece kept, the values put in are not read again, and the missing names are
those of the kept variables in order, with repeats. A text without `$` comes back as it is, with
no missing name. -/
theorem substitute_follows_scan (lookup : String → Option String) (s : String) :
    (∃ ps, Scan s.toList ps ∧ ∀ ps', Scan s.toList ps' → ps' = ps) ∧
      (∀ ps, Scan s.toList ps → substitute lookup s =
        ⟨String.ofList (ps.flatMap (Piece.render lookup)),
          ps.filterMap (Piece.missing lookup)⟩) ∧
      ('$' ∉ s.toList → substitute lookup s = ⟨s, []⟩) := by
  obtain ⟨ps, hps⟩ := scan_exists s.toList
  refine ⟨⟨ps, hps, fun ps' h' => (hps.unique h').symm⟩, fun ps' h' => ?_,
    substitute_of_no_dollar lookup⟩
  simp [substitute, substituteChars_of_scan lookup h']

theorem substitute_follows_scan_sample :
    Scan "$a$b_1$".toList [.var ['a'], .var ['b', '_', '1'], .char '$'] ∧
      substitute (fun n => if n = "a" then some "$b" else none) "$a$b_1$" =
        ⟨"$b$b_1$", ["b_1"]⟩ := by
  have hscan : Scan "$a$b_1$".toList [.var ['a'], .var ['b', '_', '1'], .char '$'] :=
    @Scan.var ['a'] _ _ (by decide) (by decide) (by decide)
      (@Scan.var ['b', '_', '1'] _ _ (by decide) (by decide) (by decide)
        (.lone (by decide) .nil))
  refine ⟨hscan, ?_⟩
  rw [(substitute_follows_scan (fun n => if n = "a" then some "$b" else none) "$a$b_1$").2.1 _
    hscan]
  decide

end Colonnade
