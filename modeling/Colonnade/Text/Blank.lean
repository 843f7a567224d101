import Colonnade.Text.Ranges
/-!
# White space

The white-space characters of Unicode 14.0 together with the four information separators
U+001C to U+001F: the set that both trimming and the blank class of a pattern use. Trimming
removes such characters from the ends of a text and keeps all inside it.
-/

namespace Colonnade.Text

/-- Closed ranges of the blank characters, ascending and apart. -/
def blankRanges : List (Nat × Nat) :=
  [(0x09, 0x0D), (0x1C, 0x20), (0x85, 0x85), (0xA0, 0xA0), (0x1680, 0x1680), (0x2000, 0x200A),
   (0x2028, 0x2029), (0x202F, 0x202F), (0x205F, 0x205F), (0x3000, 0x3000)]

def isBlank (c : Char) : Bool := inRanges blankRanges c.toNat

/-- Every character that core calls white space is blank; the table adds to core and takes
nothing away. -/
theorem isBlank_of_isWhitespace (c : Char) (h : c.isWhitespace = true) : isBlank c = true := by
  simp [Char.isWhitespace] at h
  rcases h with ((h | h) | h) | h <;> subst h <;> decide

example : isBlank '\x1f' = true ∧ isBlank '\u3000' = true ∧ isBlank '\u200b' = false := by decide

/-- The characters without their blank ends at the front. -/
def dropBlanks (cs : List Char) : List Char := cs.dropWhile isBlank

/-- The characters without their blank ends at the back. -/
def dropBlanksEnd (cs : List Char) : List Char := (dropBlanks cs.reverse).reverse

def trimStart (s : String) : String := String.ofList (dropBlanks s.toList)

def trimEnd (s : String) : String := String.ofList (dropBlanksEnd s.toList)

def trim (s : String) : String := String.ofList (dropBlanksEnd (dropBlanks s.toList))

def isBlankText (s : String) : Bool := s.toList.all isBlank

theorem dropBlanks_eq_nil_iff (cs : List Char) : dropBlanks cs = [] ↔ cs.all isBlank = true := by
  induction cs with
  | nil => simp [dropBlanks]
  | cons c rest ih =>
    rw [dropBlanks, List.dropWhile_cons, List.all_cons]
    cases hc : isBlank c
    · simp
    · exact ih

/-- Dropping the blanks at the front leaves only blanks exactly when there were only blanks. -/
theorem all_dropBlanks (cs : List Char) : (dropBlanks cs).all isBlank = cs.all isBlank := by
  induction cs with
  | nil => rfl
  | cons c rest ih =>
    rw [dropBlanks, List.dropWhile_cons, List.all_cons]
    cases hc : isBlank c
    · simp [hc]
    · simpa [dropBlanks] using ih

/-- Trimming leaves nothing exactly of a blank text. -/
theorem trim_eq_empty_iff (s : String) : trim s = "" ↔ isBlankText s = true := by
  rw [trim, String.ofList_eq_empty_iff, dropBlanksEnd, List.reverse_eq_nil_iff,
    dropBlanks_eq_nil_iff, List.all_reverse, all_dropBlanks]
  rfl

end Colonnade.Text
