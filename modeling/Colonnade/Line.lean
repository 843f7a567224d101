import Colonnade.Text.Blank
import Colonnade.Text.Case
/-!
# Lines of a source

A line is kept when, trimmed, it has at least three characters; lines are numbered from one,
counting the dropped ones. A kept line splits at its first two colons into identifier, keyword
(lower-cased) and content, the way the line pattern's matcher finds them.
-/

namespace Colonnade

open Colonnade.Text

/-- A kept line of a source split into its three fields, with its number from one and its keyword
lower-cased. -/
structure Line where
  number : Nat
  identifier : String
  keyword : String
  content : String
  deriving DecidableEq, Repr

namespace Line

/-- Finds the shortest field that a run of blanks and a colon follow, and hands the field and what
follows the colon to `k`; when `k` refuses, a longer field is tried. The field so far is
`acc`, its last character first. A field holds no line break. -/
def fieldThen {β : Type} (k : List Char → List Char → Option β) (acc : List Char) :
    List Char → Option β
  | [] => none
  | c :: rest =>
    (match dropBlanks (c :: rest) with
     | ':' :: tail => k acc.reverse tail
     | _ => none) <|>
    (if c = '\n' then none else fieldThen k (c :: acc) rest)

/-- The content after the second colon: the rest without its leading blanks, and without a line
break that ends it; none if a line break stands anywhere else in it. -/
def contentOf (cs : List Char) : Option (List Char) :=
  let t := dropBlanks cs
  if '\n' ∈ t then
    match t.reverse with
    | '\n' :: r => if '\n' ∈ r then none else some r.reverse
    | _ => none
  else
    some t

def fields (cs : List Char) : Option (List Char × List Char × List Char) :=
  fieldThen (fun ident rest =>
    fieldThen (fun kw rest' => (contentOf rest').map fun c => (ident, kw, c)) [] (dropBlanks rest))
    [] (dropBlanks cs)

/-- Splits a text into a numbered line of three fields, if it has them. -/
def parse? (number : Nat) (text : String) : Option Line :=
  (fields text.toList).map fun (i, k, c) =>
    { number, identifier := String.ofList i, keyword := lower (String.ofList k),
      content := String.ofList c }

def syntaxMessage (number : Nat) : String :=
  s!"Invalid syntax (line:{number})"

end Line

/-- The lines of a source that are kept, trimmed and numbered: the source is cut at each line
break, and a piece is kept when it has at least three characters once trimmed. -/
def numberedLines (source : String) : List (Nat × String) :=
  ((source.toList.splitOn '\n').zipIdx 1).filterMap fun (piece, n) =>
    let t := dropBlanksEnd (dropBlanks piece)
    if 3 ≤ t.length then some (n, String.ofList t) else none

/-- The kept lines of a source, each with its fields if it has them. -/
def readLines (source : String) : List (Nat × Option Line) :=
  (numberedLines source).map fun (n, t) => (n, Line.parse? n t)

end Colonnade
