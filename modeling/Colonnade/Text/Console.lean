import Colonnade.Text.Blank
import Colonnade.Text.Case
import Colonnade.Text.CellWidth
import Colonnade.Text.Emoji
import Colonnade.Text.Style
import Colonnade.Text.Literal
/-!
# Console output

What a console ten thousand cells wide prints for a text: emoji codes `:name:` replaced, control
characters dropped, tabs expanded to stops of eight, and over-wide lines broken into words, folded
and cut. Markup adds tags in square brackets, with backslash escapes; it is refused when a closing
tag closes nothing or closes a handler tag whose parameters do not read.
-/

namespace Colonnade.Text.Console

def width : Nat := 10000

/-! ## Emoji codes -/

/-- The emoji code after an opening colon: its name, the variant selector it asks for, and how
many characters it takes with its closing colon; none when no colon closes it before a blank. -/
def emojiCode? : List Char → Option (List Char × String × Nat)
  | [] => none
  | c :: rest =>
    if "-emoji:".toList.isPrefixOf (c :: rest) then some ([], "\uFE0F", 7)
    else if "-text:".toList.isPrefixOf (c :: rest) then some ([], "\uFE0E", 6)
    else if c == ':' then some ([], "", 1)
    else if isBlank c then none
    else (emojiCode? rest).map fun (name, variant, n) => (c :: name, variant, n + 1)

/-- Text with its emoji codes replaced, reading at most `fuel` characters. -/
def emojifyFrom : Nat → List Char → List Char
  | 0, cs => cs
  | _ + 1, [] => []
  | fuel + 1, c :: rest =>
    if c == ':' then
      match emojiCode? rest with
      | some (name, variant, n) =>
        match emojiOf? (lower (String.ofList name)) with
        | some e => e.toList ++ variant.toList ++ emojifyFrom fuel (rest.drop n)
        | none => c :: rest.take n ++ emojifyFrom fuel (rest.drop n)
      | none => c :: emojifyFrom fuel rest
    else c :: emojifyFrom fuel rest

def emojify (cs : List Char) : List Char := emojifyFrom cs.length cs

/-- Whether a character is a control that the console drops. -/
def isDropped (c : Char) : Bool :=
  c.toNat == 7 || c.toNat == 8 || c.toNat == 11 || c.toNat == 12 || c.toNat == 13

/-- Text without the controls that the console drops. -/
def dropControls (cs : List Char) : List Char := cs.filter fun c => !isDropped c

/-! ## Lines -/

/-- A line with each tab widened: it becomes a space, then spaces up to the next multiple of
eight cells, counting from `col` cells. -/
def expandTabs (col : Nat) : List Char → List Char
  | [] => []
  | '\t' :: rest =>
    let pad := (8 - (col + 1) % 8) % 8
    ' ' :: List.replicate pad ' ' ++ expandTabs (col + 1 + pad) rest
  | c :: rest => c :: expandTabs (col + cellWidth c) rest

/-- The words of a line from position `start`, each with its position: blanks, non-blanks, and
the blanks after them. Blanks with nothing after them make no word. -/
def wordsFrom : Nat → Nat → List Char → List (Nat × List Char)
  | 0, _, _ => []
  | fuel + 1, start, cs =>
    let lead := cs.takeWhile isBlank
    let body := (cs.drop lead.length).takeWhile fun c => !isBlank c
    if body.isEmpty then []
    else
      let trail := (cs.drop (lead.length + body.length)).takeWhile isBlank
      let n := lead.length + body.length + trail.length
      (start, cs.take n) :: wordsFrom fuel (start + n) (cs.drop n)

/-- Characters cut into pieces of at most `w` cells: a character goes on the current piece while
it fits, and else starts a new one. -/
def chopCells (w : Nat) (cs : List Char) : List (List Char) :=
  let (done, current, _) := cs.foldl (fun (done, current, total) c =>
      if total + cellWidth c > w then (current.reverse :: done, [c], cellWidth c)
      else (done, c :: current, total + cellWidth c))
    (([] : List (List Char)), ([] : List Char), 0)
  (current.reverse :: done).reverse

/-- The breaks before the pieces of a folded word at position `start`, but at the start of the
line. -/
def foldBreaks : Nat → List (List Char) → List Nat
  | _, [] => []
  | start, [_] => if start != 0 then [start] else []
  | start, p :: ps => (if start != 0 then [start] else []) ++ foldBreaks (start + p.length) ps

/-- The positions at which a line of words breaks to fit `w` cells, `offset` cells being taken
on the current line. -/
def breaks (w : Nat) : Nat → List (Nat × List Char) → List Nat
  | _, [] => []
  | offset, (start, word) :: rest =>
    let wordCells := cellsOf (dropBlanksEnd word)
    if offset + wordCells ≤ w then breaks w (offset + cellsOf word) rest
    else if wordCells > w then
      let pieces := chopCells w word
      foldBreaks start pieces ++ breaks w (cellsOf (pieces.getLast?.getD [])) rest
    else if offset != 0 && start != 0 then start :: breaks w (cellsOf word) rest
    else breaks w offset rest

def cutAt (cs : List Char) (positions : List Nat) : List (List Char) :=
  let bounds := 0 :: positions ++ [cs.length]
  (bounds.zip bounds.tail).map fun (a, b) => (cs.drop a).take (b - a)

/-- A line of more than `w` characters without the blanks it ends with beyond `w`. -/
def cropBlankEnd (w : Nat) (cs : List Char) : List Char :=
  if cs.length > w then
    let blanks := (cs.reverse.takeWhile isBlank).length
    cs.take (cs.length - min blanks (cs.length - w))
  else cs

/-- The first characters of a line that take `total` cells, searched by halving between `lo`
and `hi`; a wide character that would end one cell too far becomes a space. -/
def fitSearch (cs : List Char) (total : Nat) : Nat → Nat → Nat → List Char
  | 0, lo, _ => cs.take (lo + 1)
  | fuel + 1, lo, hi =>
    let pos := (lo + hi) / 2
    let before := cs.take (pos + 1)
    let cells := cellsOf before
    if cells == total + 1 && (before.getLast?.map cellWidth) == some 2 then before.dropLast ++ [' ']
    else if cells == total then before
    else if cells > total then fitSearch cs total fuel lo pos
    else fitSearch cs total fuel pos hi

def fitCells (w : Nat) (cs : List Char) : List Char :=
  if cellsOf cs ≤ w then cs
  else if w == 0 then []
  else fitSearch cs w (cs.length + 1) 0 cs.length

/-- The lines the console prints for one line of text. -/
def layoutLine (cs : List Char) : List (List Char) :=
  let line := if cs.contains '\t' then expandTabs 0 cs else cs
  let pieces := cutAt line (breaks width 0 (wordsFrom line.length 0 line))
  pieces.map fun p => fitCells width (cropBlankEnd width p)

/-- What the console prints for text, with a line break after it. -/
def render (cs : List Char) : String :=
  String.join (((cs.splitOn '\n').flatMap layoutLine).map fun l => String.ofList l ++ "\n")

def plain (s : String) : String := render (dropControls (emojify s.toList))

/-! ## Markup -/

/-- Why markup is refused. -/
inductive Refusal where
  | unmatched
  | badParameters
  | badColor
  deriving DecidableEq, Repr

def Refusal.kindName : Refusal → String
  | .unmatched | .badParameters => "MarkupError"
  | .badColor => "ValueError"

/-- A piece of markup: text, or the body of a tag. -/
inductive Piece where
  | text (cs : List Char)
  | tag (body : List Char)
  deriving DecidableEq, Repr

def isTagStart (c : Char) : Bool := ('a' ≤ c && c ≤ 'z') || c = '#' || c = '/' || c = '@'

/-- The body of a tag at an opening bracket, and what follows its closing bracket. -/
def tagAt? : List Char → Option (List Char × List Char)
  | '[' :: c :: rest =>
    if isTagStart c then
      let body := (c :: rest).takeWhile fun d => d != ']' && d != '['
      match (c :: rest).drop body.length with
      | ']' :: after => some (body, after)
      | _ => none
    else none
  | _ => none

/-- The text run so far, as a piece, when it is not empty. -/
def pendingText (pending : List Char) : List Piece :=
  if pending.isEmpty then [] else [.text pending.reverse]

/-- The pieces of markup, with the text read so far in reverse, reading at most `fuel`
characters. -/
def piecesFrom : Nat → List Char → List Char → List Piece
  | 0, pending, cs => pendingText (cs.reverse ++ pending)
  | _ + 1, pending, [] => pendingText pending
  | fuel + 1, pending, c :: rest =>
    let slashes := (c :: rest).takeWhile (· == '\\')
    match tagAt? ((c :: rest).drop slashes.length) with
    | some (body, after) =>
      let halves := slashes.length / 2
      let escaped := if halves > 0 then [Piece.text (List.replicate halves '\\')] else []
      let tag := if slashes.length % 2 == 1 then Piece.text ('[' :: body ++ [']']) else .tag body
      pendingText pending ++ escaped ++ tag :: piecesFrom fuel [] after
    | none => piecesFrom fuel (c :: pending) rest

def pieces (s : String) : List Piece := piecesFrom s.length [] s.toList

/-- Text of a run between tags as shown: each backslash before a bracket dropped, emoji codes
replaced, controls dropped. -/
def runText (cs : List Char) : List Char :=
  let rec unescape : List Char → List Char
    | '\\' :: '[' :: rest => '[' :: unescape rest
    | c :: rest => c :: unescape rest
    | [] => []
  dropControls (emojify (unescape cs))

def isHandlerChar (c : Char) : Bool := (Literal.isNameChar c && !isBlank c) || c == '.'

/-- Whether the parameters of a handler tag read: a handler name alone, a handler name with a
literal in parentheses, or else a literal expression. -/
def parametersRead (parameters : List Char) : Bool :=
  let p := dropBlanksEnd (dropBlanks parameters)
  let split := (List.range (p.length + 1)).find? fun k =>
    (p.take k).all isHandlerChar &&
      match p.drop k with
      | [] => true
      | '(' :: more => more.getLast? == some ')' && !more.contains '\n'
      | _ => false
  match split with
  | some k => p.length == k || Literal.isLiteral (String.ofList (p.drop k))
  | none => Literal.isLiteral (String.ofList p)

/-- An open tag: its style in canonical form, and its parameters. -/
structure OpenTag where
  style : String
  parameters : Option (List Char)

/-- The open tags without the newest one of a style, and that tag; none when none is open. -/
def closeStyle (style : String) : List OpenTag → Option (OpenTag × List OpenTag)
  | [] => none
  | t :: ts =>
    if t.style == style then some (t, ts)
    else (closeStyle style ts).map fun (found, rest) => (found, t :: rest)

/-- The canonical form of a style, or the refusal of a color that is not made of numbers. -/
def styleName (name : List Char) : Except Refusal String :=
  match normalStyle (String.ofList name) with
  | .ok s => .ok s
  | .error _ => .error .badColor

/-- Renders pieces of markup with tags `opened` open, the newest first: the text they show, or
why they are refused. -/
def renderPieces : List OpenTag → List Piece → Except Refusal (List Char)
  | _, [] => .ok []
  | opened, .text cs :: rest => (runText cs ++ ·) <$> renderPieces opened rest
  | opened, .tag body :: rest => do
    let name := body.takeWhile (· != '=')
    let parameters := if body.contains '=' then some (body.drop (name.length + 1)) else none
    match name with
    | '/' :: closing =>
      let closing := dropBlanksEnd (dropBlanks closing)
      let (tag, older) ← if closing.isEmpty then
          match opened with
          | t :: older => pure (t, older)
          | [] => throw Refusal.unmatched
        else do
          let style ← styleName closing
          match closeStyle style opened with
          | some found => pure found
          | none => throw Refusal.unmatched
      if tag.style.startsWith "@" then
        match tag.parameters with
        | some ps => if !ps.isEmpty && !parametersRead ps then throw Refusal.badParameters
        | none => pure ()
      renderPieces older rest
    | _ =>
      let style ← styleName name
      renderPieces ({ style, parameters } :: opened) rest

/-- The text that markup shows, or why it is refused. -/
def markupText (s : String) : Except Refusal (List Char) := renderPieces [] (pieces s)

/-- What the console prints for markup, or why it is refused. -/
def markup (s : String) : Except Refusal String := render <$> markupText s

end Colonnade.Text.Console
