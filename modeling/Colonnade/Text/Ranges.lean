/-!
# Sets of code points as ranges

A property of characters that a standard fixes is carried as a list of closed ranges of code
points. Membership is a scan of the list.
-/

namespace Colonnade.Text

/-- Whether a code point lies in one of the closed ranges. -/
def inRanges (rs : List (Nat × Nat)) (n : Nat) : Bool :=
  rs.any (fun r => r.1 ≤ n && n ≤ r.2)

theorem inRanges_cons (r : Nat × Nat) (rs : List (Nat × Nat)) (n : Nat) :
    inRanges (r :: rs) n = ((r.1 ≤ n && n ≤ r.2) || inRanges rs n) := by
  simp [inRanges]

end Colonnade.Text
