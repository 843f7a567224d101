import Colonnade.Data
import Colonnade.Decimal.Read
import Colonnade.Settings
/-!
# Settings from host data

Settings are taken from a map field by field; an absent field keeps its default and unknown fields
are passed over. Every wrong field is reported by its place: the field's name, then a variable's
key (with `[key]` when the key itself is wrong) or a plugin's position.
-/

namespace Colonnade

/-- The place of a wrong field: its parts, outermost first. -/
abbrev FieldPath := List String

/-- A check of a field: its value, or the places where it is wrong. -/
abbrev Checked (α : Type) := Except (List FieldPath) α

namespace Settings

/-- The text a value stands for where a text is wanted: a text, or bytes of UTF-8. -/
def textOf? : Data → Option String
  | .text s => some s
  | .bytes b => String.fromUTF8? ⟨b.toArray⟩
  | _ => none

/-- The double of an integer, if it rounds to a finite one. -/
def intToFloat? (n : Int) : Option Float :=
  let x := Decimal.nearestRatio n.natAbs 1
  if x.isInf then none else some (if n < 0 then -x else x)

def timeoutOf : Data → Checked (Option Float)
  | .null => .ok none
  | d =>
    let x? : Option Float := match d with
      | .bool b => some (if b then 1.0 else 0.0)
      | .int n => intToFloat? n
      | .float x => some x
      | d => (textOf? d).bind Decimal.readStrictFloat?
    match x? with
    | some x => if x > 0 then .ok (some x) else .error [["handler_timeout"]]
    | none => .error [["handler_timeout"]]

def policyOf (field : String) : Data → Checked Policy
  | .text "error" => .ok .error
  | .text "ignore" => .ok .ignore
  | _ => .error [[field]]

/-- The places where one variable is wrong: its key if not a text, its value if not a text. -/
def variableFaults (k v : Data) : List FieldPath :=
  (if (textOf? k).isSome then [] else [["variables", k.keyText, "[key]"]]) ++
  (if (textOf? v).isSome then [] else [["variables", k.keyText]])

def variablesOf : Data → Checked (Ledger String)
  | .map fields =>
    match fields.flatMap (fun (k, v) => variableFaults k v) with
    | [] => .ok (Ledger.ofList (fields.map fun (k, v) => ((textOf? k).getD "", (textOf? v).getD "")))
    | faults => .error faults
  | _ => .error [["variables"]]

def pluginsOf : Data → Checked (List String)
  | .list items =>
    let faults := (items.zipIdx 0).filterMap fun (d, i) =>
      if (textOf? d).isSome then none else some ["plugins", toString i]
    if faults.isEmpty then .ok (items.map fun d => (textOf? d).getD "") else .error faults
  | _ => .error [["plugins"]]

/-- A field checked if present, its default otherwise. -/
def fieldOr {α : Type} (d : Data) (name : String) (default : α) (check : Data → Checked α) :
    Checked α :=
  match d.field? name with
  | some v => check v
  | none => .ok default

def faultsOf {α : Type} : Checked α → List FieldPath
  | .ok _ => []
  | .error fs => fs

def ofData (d : Data) : Checked Settings :=
  match d with
  | .map _ =>
    let t := fieldOr d "handler_timeout" (some 30.0) timeoutOf
    let mi := fieldOr d "missing_import" .error (policyOf "missing_import")
    let rk := fieldOr d "remove_keyword" .error (policyOf "remove_keyword")
    let vs := fieldOr d "variables" {} variablesOf
    let ps := fieldOr d "plugins" [] pluginsOf
    match t, mi, rk, vs, ps with
    | .ok t, .ok mi, .ok rk, .ok vs, .ok ps =>
      .ok { handlerTimeout := t, missingImport := mi, removeKeyword := rk, «variables» := vs,
            plugins := ps }
    | _, _, _, _, _ =>
      .error (faultsOf t ++ faultsOf mi ++ faultsOf rk ++ faultsOf vs ++ faultsOf ps)
  | _ => .error [[]]

/-- The places of wrong fields as dotted texts, sorted, each once. -/
def faultNames (faults : List FieldPath) : List String :=
  ((faults.map ".".intercalate).mergeSort (fun a b => decide (a ≤ b))).eraseDups

end Settings

end Colonnade
