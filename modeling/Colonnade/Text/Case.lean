import Colonnade.Text.CaseRuns
import Colonnade.Text.Cased
/-!
# Lower and upper case of a text

Case is changed character by character through the full maps of Unicode, so a character may become
several. The capital sigma alone looks at its neighbours: it becomes `ς` after a cased letter with
none after it, case-ignorable characters passed over, and `σ` otherwise.
-/

namespace Colonnade.Text

/-- The image of a code point under the first run that covers it. -/
def runImage? (runs : List CaseRun) (n : Nat) : Option Nat :=
  runs.findSome? (fun r => r.apply? n)

/-- A character's image under a case map given by its expansions and its runs. -/
def mapChar (expansions : List (Nat × List Nat)) (runs : List CaseRun) (c : Char) : List Char :=
  match expansions.lookup c.toNat with
  | some ns => ns.map Char.ofNat
  | none =>
    match runImage? runs c.toNat with
    | some n => [Char.ofNat n]
    | none => [c]

/-- The lower case of one character, apart from the context of a capital sigma. -/
def lowerChar (c : Char) : List Char := mapChar lowerExpansions lowerRuns c

def upperChar (c : Char) : List Char := mapChar upperExpansions upperRuns c

def capitalSigma : Char := 'Σ'

/-- A capital sigma ends a word: the nearest character before it that is not case-ignorable is
cased, and the nearest after it that is not case-ignorable, if any, is not. The characters
before it are given nearest first. -/
def endsWord (before after : List Char) : Bool :=
  (match (before.dropWhile isCaseIgnorable).head? with
   | some c => isCased c
   | none => false) &&
  (match (after.dropWhile isCaseIgnorable).head? with
   | some c => !isCased c
   | none => true)

/-- The lower case of the characters `rest`, the characters before them given nearest first. -/
def lowerFrom : List Char → List Char → List Char
  | _, [] => []
  | before, c :: after =>
    (if c = capitalSigma then [if endsWord before after then 'ς' else 'σ'] else lowerChar c) ++
      lowerFrom (c :: before) after

def lower (s : String) : String := String.ofList (lowerFrom [] s.toList)

def upper (s : String) : String := String.ofList (s.toList.flatMap upperChar)

/-- Every character has a lower case of at least one character. -/
theorem lowerChar_ne_nil (c : Char) : lowerChar c ≠ [] := by
  unfold lowerChar mapChar
  split
  · rename_i ns h
    -- the one expansion of lower case has two characters
    simp only [lowerExpansions, List.lookup_cons, List.lookup_nil] at h
    split at h
    · cases h
      simp
    · cases h
  · split <;> simp

theorem lowerFrom_eq_nil_iff (before cs : List Char) : lowerFrom before cs = [] ↔ cs = [] := by
  cases cs with
  | nil => simp [lowerFrom]
  | cons c after =>
    simp only [lowerFrom, List.append_eq_nil_iff, reduceCtorEq, iff_false, not_and]
    intro h
    split at h
    · cases h
    · exact absurd h (lowerChar_ne_nil c)

/-- Lower case turns only the empty text into the empty text. -/
theorem lower_eq_empty_iff (s : String) : lower s = "" ↔ s = "" := by
  rw [lower, String.ofList_eq_empty_iff, lowerFrom_eq_nil_iff, String.toList_eq_nil_iff]

end Colonnade.Text
