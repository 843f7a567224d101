import Colonnade.Data
import Colonnade.Keyword
import Colonnade.Ledger
import Colonnade.Text.Blank
/-!
# The registry of handlers

Handlers by keyword, trimmed and lower-cased, in order of first registration. Registration checks
that the name is a text that is not blank, the handler is a handler and the key is not reserved; a
batch stops at the first entry that fails, keeping those before it.
-/

namespace Colonnade

open Colonnade.Text

/-- Why a registration was refused. `hostFault` is a fault of the host itself, met in finding a
plugin or running its hook. -/
inductive RegistryError where
  | nameNotText
  | notAHandler
  | reserved (key : String)
  | entryNotMap
  | notNameOrEntries
  | notIterable (sort : String)
  | pluginNotFound (path reason : String)
  | pluginWithoutHook (path : String)
  | hostFault (kind message : String)
  deriving DecidableEq, Repr

def RegistryError.message : RegistryError → String
  | .nameNotText => "name must be a string"
  | .notAHandler => "func must be a function"
  | .reserved key => s!"'{key}' is a reserved keyword"
  | .entryNotMap => "each entry must be a mapping of name and handler"
  | .notNameOrEntries => "name must be a string or a list of entries"
  | .notIterable sort => s!"'{sort}' object is not iterable"
  | .pluginNotFound path reason => s!"Cannot import plugin '{path}': {reason}"
  | .pluginWithoutHook path => s!"Plugin '{path}' has no register() function"
  | .hostFault _ m => m

/-- Handlers by key, in order of first registration. -/
structure Registry where
  handlers : Ledger Handler := {}

namespace Registry

/-- The key of a keyword name: trimmed and lower-cased. -/
def keyOf (name : String) : String := lower (trim name)

def get? (r : Registry) (name : String) : Option Handler := r.handlers.get? (lower name)

def contains (r : Registry) (name : String) : Bool := (r.get? name).isSome

def names (r : Registry) : List String := r.handlers.keys

def erase (r : Registry) (key : String) : Registry := ⟨r.handlers.erase key⟩

def register (r : Registry) (name handler : Data) : Except RegistryError Registry :=
  match name with
  | .text s =>
    if isBlankText s then .error .nameNotText
    else
      match handler with
      | .handler h =>
        let key := keyOf s
        if Keyword.isReserved key then .error (.reserved key)
        else .ok ⟨r.handlers.insert key h⟩
      | _ => .error .notAHandler
  | _ => .error .nameNotText

/-- Registers one entry of a batch: a map with a name and a handler, given under `handler`, or
else under `func`. -/
def registerEntry (r : Registry) (entry : Data) : Except RegistryError Registry :=
  match entry with
  | .map _ =>
    let handler := (entry.field? "handler").getD ((entry.field? "func").getD .null)
    r.register ((entry.field? "name").getD .null) handler
  | _ => .error .entryNotMap

/-- Registers entries in order, stopping at the first that fails; gives the registry with the
entries before it, and the failure. -/
def registerEntries (r : Registry) : List Data → Registry × Option RegistryError
  | [] => (r, none)
  | e :: es =>
    match r.registerEntry e with
    | .ok r' => registerEntries r' es
    | .error err => (r, some err)

/-- Registers a batch: whatever can be gone through, entry by entry. -/
def registerBatch (r : Registry) (entries : Data) : Registry × Option RegistryError :=
  match entries.elements? with
  | some es => r.registerEntries es
  | none => (r, some (.notIterable entries.sortName))

/-- Registers a name with a handler, or a batch when given a list or a map. -/
def registerKeyword (r : Registry) (name handler : Data) : Registry × Option RegistryError :=
  match name with
  | .text _ =>
    match r.register name handler with
    | .ok r' => (r', none)
    | .error e => (r, some e)
  | .list _ | .map _ => r.registerBatch name
  | _ => (r, some .notNameOrEntries)

end Registry

end Colonnade
