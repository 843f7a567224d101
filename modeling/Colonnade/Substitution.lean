import Colonnade.Name
/-!
# Substituting variables

Substitution reads a text from left to right. A `$` followed by a name is replaced by the
variable's value when the variable is known; otherwise it stays as written and the name is
noted as missing. A `$` not followed by a name stays. A value put in is never read again, so a
`$` inside a value stays as it is.
-/

namespace Colonnade

/-- A text after substitution, with the names that had no value, in order of appearance and with
repeats. -/
structure Substituted where
  text : String
  missing : List String
  deriving DecidableEq, Repr

/-- Substitutes into characters; `lookup` gives a variable's value. -/
def substituteChars (lookup : String → Option String) : List Char → List Char × List String
  | [] => ([], [])
  | c :: rest =>
    if c = '$' then
      let name := rest.takeWhile isNameChar
      if name.isEmpty then
        let r := substituteChars lookup rest
        (c :: r.1, r.2)
      else
        let r := substituteChars lookup (rest.dropWhile isNameChar)
        match lookup (String.ofList name) with
        | some v => (v.toList ++ r.1, r.2)
        | none => (c :: name ++ r.1, String.ofList name :: r.2)
    else
      let r := substituteChars lookup rest
      (c :: r.1, r.2)
termination_by cs => cs.length
decreasing_by
  all_goals
    have := (List.dropWhile_suffix (l := rest) isNameChar).length_le
    simp only [List.length_cons]
    omega

def substitute (lookup : String → Option String) (s : String) : Substituted :=
  let r := substituteChars lookup s.toList
  ⟨String.ofList r.1, r.2⟩

end Colonnade
