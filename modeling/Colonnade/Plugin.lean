import Colonnade.Registry
/-!
# Plugins

A plugin is a module of the host, found part by part along a dotted path, whose hook registers
handlers; a registration that fails stops the hook, and the ones before it stay.
-/

namespace Colonnade

/-- The registration hook of a plugin: missing, not runnable, registering names with handlers in
order, or failing with a fault of the host. -/
inductive Hook where
  | missing
  | notRunnable
  | registers (entries : List (String × Handler))
  | fails (kind message : String)

/-- A module installed on the host: its dotted path, its hook, whether modules may stand below
it, and whether the host has already loaded it under its path. -/
structure Plugin where
  path : String
  hook : Hook
  package : Bool := false
  loaded : Bool := false

/-- Runs registrations in order, stopping at the first that fails. -/
def Registry.registerAllNamed (r : Registry) : List (String × Handler) → Registry × Option RegistryError
  | [] => (r, none)
  | (name, h) :: rest =>
    match r.register (.text name) (.handler h) with
    | .ok r' => r'.registerAllNamed rest
    | .error e => (r, some e)

/-- The path of the module that a dotted path stands below: all before its last point. -/
def parentPath (path : String) : String :=
  match (path.toList.zipIdx 0).reverse.find? (·.1 == '.') with
  | some (_, i) => String.ofList (path.toList.take i)
  | none => ""

/-- Finds the module at a path, the module above it first; gives the reason when there is none.
`fuel` bounds the number of parts. -/
def findModule (installed : List Plugin) : Nat → String → Except String Plugin
  | 0, path => .error s!"No module named {Text.quoted path}"
  | fuel + 1, path => do
    if let some m := installed.find? fun m => m.path == path && m.loaded then return m
    let parent := parentPath path
    if parent != "" then
      let above ← findModule installed fuel parent
      if !above.package then
        throw s!"No module named {Text.quoted path}; {Text.quoted parent} is not a package"
    match installed.find? (·.path == path) with
    | some m => return m
    | none => throw s!"No module named {Text.quoted path}"

/-- Loads the plugin at a path from the installed ones into a registry. -/
def Registry.loadPlugin (r : Registry) (installed : List Plugin) (path : String) :
    Registry × Option RegistryError :=
  if path.startsWith "." then
    (r, some (.hostFault "TypeError"
      s!"the 'package' argument is required to perform a relative import for {Text.quoted path}"))
  else if path.isEmpty then (r, some (.hostFault "ValueError" "Empty module name"))
  else
    match findModule installed (path.length + 1) path with
    | .error reason => (r, some (.pluginNotFound path reason))
    | .ok p =>
      match p.hook with
      | .missing | .notRunnable => (r, some (.pluginWithoutHook path))
      | .registers entries => r.registerAllNamed entries
      | .fails kind message => (r, some (.hostFault kind message))

end Colonnade
