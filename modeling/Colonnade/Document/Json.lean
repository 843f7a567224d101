import Colonnade.Document
import Colonnade.Json.Read
/-!
# Documents as JSON

A document is an object with its `name` and its `content`, records by identifier in order, each an
object tagged by `type`. Reading takes fields in any order and passes over unknown ones; absent
`name`, `content`, `line` and `value` take defaults, `type` and `keyword` must be present.
-/

namespace Colonnade

namespace Record

def toJson : Record → Json
  | .text k n v => .obj [("type", .str "string"), ("keyword", .str k), ("line", .int n), ("value", .str v)]
  | .array k n items =>
    .obj [("type", .str "array"), ("keyword", .str k), ("line", .int n), ("value", Json.ofTexts items)]
  | .error e =>
    .obj [("type", .str "error"), ("keyword", .str e.keyword), ("line", .int e.line),
      ("value", .str e.message), ("kind", .str e.kind.text)]
  | .command k n v =>
    .obj [("type", .str "command"), ("keyword", .str k), ("line", .int n), ("value", .str v)]

/-- A field's value, or a default when the field is absent. -/
def fieldOr? {α : Type} (j : Json) (k : String) (default : α) (read : Json → Option α) :
    Option α :=
  match j.field? k with
  | some v => read v
  | none => some default

def ofJson? (j : Json) : Option Record := do
  let tag ← (j.field? "type").bind Json.str?
  let k ← (j.field? "keyword").bind Json.str?
  let n ← fieldOr? j "line" 0 Json.int?
  match tag with
  | "string" => return .text k n (← fieldOr? j "value" "" Json.str?)
  | "array" =>
    let items ← fieldOr? j "value" [] fun v => v.arr?.bind (·.mapM Json.str?)
    return .array k n items
  | "error" =>
    let kind ← fieldOr? j "kind" .invalidSyntax fun v => v.str?.bind ErrorKind.ofText?
    return .error ⟨k, n, ← fieldOr? j "value" "" Json.str?, kind⟩
  | "command" => return .command k n (← fieldOr? j "value" "" Json.str?)
  | _ => none

end Record

namespace Document

def toJson (d : Document) : Json :=
  .obj [("name", .str d.name), ("content", .obj (d.content.entries.map fun (k, r) => (k, r.toJson)))]

/-- A document as text, written by a serialization package. -/
def encodeWith (c : Json.Codec) (d : Document) : String := c.encode d.toJson

def toJsonText (d : Document) : String := d.encodeWith Json.compact

def ofJson? (j : Json) : Option Document := do
  let _ ← j.obj?
  let name ← Record.fieldOr? j "name" "" Json.str?
  let entries ← Record.fieldOr? j "content" [] fun c =>
    c.obj?.bind (·.mapM fun (k, v) => (Record.ofJson? v).map (k, ·))
  return { name, content := Ledger.ofList entries }

/-- A document from text, read by a serialization package. -/
def decodeWith (c : Json.Codec) (s : String) : Option Document := (c.decode s).bind ofJson?

def ofJsonText? (s : String) : Option Document := decodeWith Json.compact s

/-- Whether a 64-bit word holds the line of every record, as the serialization package needs
of the integers it writes. -/
def linesFit (d : Document) : Bool := d.content.values.all fun r => Json.inWord r.line

end Document

end Colonnade
