import Colonnade.Document
import Colonnade.Keyword
import Colonnade.Line
import Colonnade.Substitution
/-!
# Reading a source into a document

Each kept line is filed under its identifier: a line without fields stages a syntax error under
its number; otherwise its content is substituted, and the keyword decides whether it writes a text,
starts or extends an array, declares, names, writes a command, or stages an error, which takes the
place of what stood under its key.
-/

namespace Colonnade

open Colonnade.Text

/-- What reading needs from its surroundings: which keywords a handler takes (in lower case),
whether an `rm` line stages an error, and whether the scope holds an import's parameters. -/
structure ReadOptions where
  registered : String → Bool := fun _ => false
  removeFails : Bool := true
  parameters : Bool := false

/-- The content that marks an export under the document's own name. -/
def exportDefault : String := "default"

/-- Whether a line exports its document by default: keyword `ex`, content `default` as written. -/
def Line.isDefaultExport (l : Line) : Bool := l.keyword == "ex" && l.content == exportDefault

/-- A document being read, and the scope that its declarations go into. -/
structure Reading where
  doc : Document := {}
  scope : Ledger String := {}
  deriving DecidableEq, Repr

namespace Reading

def put (st : Reading) (key : String) (r : Record) : Reading :=
  { st with doc := { st.doc with content := st.doc.content.insert key r } }

def stage (st : Reading) (key : String) (keyword : String) (line : Nat) (message : String)
    (kind : ErrorKind) : Reading :=
  st.put key (.error ⟨keyword, line, message, kind⟩)

/-- Reads an array line: `ar` starts an array, `ad` appends, `rm` is refused or passed over. -/
def readArray (o : ReadOptions) (st : Reading) (k : Keyword) (ident content : String)
    (n : Nat) : Reading :=
  match k with
  | .ar => st.put ident (.array "ar" n [content])
  | .ad =>
    match st.doc.content.get? ident with
    | some (.array kw m items) => st.put ident (.array kw m (items ++ [content]))
    | _ =>
      st.stage ident "ad" n s!"Array '{ident}' does not exist, failed to add '{content}'"
        .arrayNotFound
  | .rm =>
    if o.removeFails then
      st.stage ident "rm" n s!"Keyword 'rm' is not implemented (line:{n})" .notImplemented
    else st
  | _ => st

/-- Reads a line that is not a free value line and not an array line. -/
def readOther (o : ReadOptions) (st : Reading) (k : Option Keyword) (name ident content : String)
    (n : Nat) (occupied : Bool) : Reading :=
  match k with
  | some .dc => { st with scope := st.scope.insert ident content }
  | some .nm => { st with doc := { st.doc with name := content } }
  | _ =>
    if k == some .im || k == some .ex || o.registered (lower name) then
      if occupied then
        st.stage ident name n
          s!"Identifier '{ident}' is already in use, cannot run '{name}' (line:{n})"
          .duplicateIdentifier
      else st.put ident (.command name n content)
    else
      st.stage ident name n s!"Unknown keyword '{name}' (line:{n})" .unknownKeyword

/-- Reads a line that has its three fields. `defer` says whether parameter names stay as written. -/
def readLine (o : ReadOptions) (defer : Bool) (st : Reading) (l : Line) : Reading :=
  let sub := substitute st.scope.get? l.content
  let missing := if defer then sub.missing.filter (fun m => !isParameterName m) else sub.missing
  match missing with
  | m :: _ =>
    st.stage l.identifier "none" l.number s!"Unknown variable '${m}' (line:{l.number})"
      .unknownVariable
  | [] =>
    let k := Keyword.lookup? l.keyword
    let occupied := st.doc.content.contains l.identifier
    if !occupied && k == some .wl then
      if isNumeral l.identifier then
        st.put l.identifier (.text l.keyword l.number sub.text)
      else
        st.stage l.identifier l.keyword l.number
          s!"'{l.identifier}' is not a number (line:{l.number})" .notANumber
    else
      match k with
      | some k' =>
        if k'.category == .array then readArray o st k' l.identifier sub.text l.number
        else readOther o st k l.keyword l.identifier sub.text l.number occupied
      | none => readOther o st k l.keyword l.identifier sub.text l.number occupied

def readEntry (o : ReadOptions) (defer : Bool) (st : Reading) : Nat × Option Line → Reading
  | (n, none) => st.stage (toString n) "none" n (Line.syntaxMessage n) .invalidSyntax
  | (_, some l) => st.readLine o defer l

end Reading

/-- Whether reading a source defers parameter names: it exports itself by default and its scope
is not an import's. -/
def defersParameters (o : ReadOptions) (lines : List (Nat × Option Line)) : Bool :=
  !o.parameters && lines.any (fun e => e.2.any Line.isDefaultExport)

/-- Reads a source against a scope; gives the document and the scope after its declarations. -/
def Document.read (o : ReadOptions) (scope : Ledger String) (source : String) : Reading :=
  let lines := readLines source
  lines.foldl (Reading.readEntry o (defersParameters o lines)) { scope }

/-- A text as a source: a line naming the document, an empty line, and each line of the text
as a value line numbered from one. -/
def wrapText (text name : String) : String :=
  let body := ((text.toList.splitOn '\n').zipIdx 1).map fun e =>
    s!"{e.2}: WL: {String.ofList e.1}"
  "\n".intercalate ([s!"0: NM: {name}", ""] ++ body)

end Colonnade
