import Colonnade.Engine
import Colonnade.Plugin
import Colonnade.Document.Json
import Colonnade.Settings.Load
import Colonnade.Text.Console
/-!
# The command line

`run`, `build`, `wrap` and `--version`, as a function of the words and of the files it may read.
A mistake in the words exits with 2; a missing file, unusable settings or a fault exit with 1 and
`Error: ` and the message on the error stream.
-/

namespace Colonnade.Cli

open Colonnade.Text

/-- The version that `--version` prints. -/
def version : String := "vsysc 0.1.0"

/-- What a command line run leaves: its exit code and the texts of its output streams, and the
kind of the fault that ended it unexpectedly, if one did. -/
structure Outcome where
  exitCode : Nat
  stdout : String := ""
  stderr : String := ""
  exception : Option String := none
  deriving DecidableEq, Repr

/-- A run ended by a fault the command does not expect, of the kind named. -/
def crash (kind : String) : Outcome := { exitCode := 1, exception := some kind }

def usageError : Outcome := { exitCode := 2 }

/-- An error that ends a command. Its message is printed as console markup after a red
`Error: `; a message whose markup is refused ends the command with the fault of the refusal. -/
def failure (message : String) : Outcome :=
  match Text.Console.markup ("[red]Error:[/red] " ++ message) with
  | .ok text => { exitCode := 1, stderr := text }
  | .error r => crash r.kindName

/-- A path written plainly: repeated slashes and `.` parts dropped, a trailing slash dropped; the
empty path is `.`. -/
def normalPath (p : String) : String :=
  let parts := (p.splitOn "/").filter fun s => s != "" && s != "."
  let body := "/".intercalate parts
  if p.startsWith "/" then "/" ++ body else if body.isEmpty then "." else body

/-- The name of a file without its directory and its last suffix; a name that starts with its
only point, or ends with it, has no suffix. -/
def stem (p : String) : String :=
  let name := ((normalPath p).splitOn "/").getLast?.getD ""
  let cs := name.toList
  match (cs.zipIdx 0).reverse.find? (fun (c, _) => c = '.') with
  | some (_, i) => if 0 < i && i + 1 < cs.length then String.ofList (cs.take i) else name
  | none => name

/-! ## Words -/

/-- An option of a command: its long name, its short letter, and whether it takes a value. -/
structure OptionSpec where
  long : String
  short : Option Char
  takesValue : Bool

/-- The options of a command as given: each option's long name with its value, in order, and
the arguments. -/
structure Given where
  options : List (String × String) := []
  arguments : List String := []

def Given.values (g : Given) (long : String) : List String :=
  g.options.filterMap fun (k, v) => if k == long then some v else none

def Given.has (g : Given) (long : String) : Bool := g.options.any (·.1 == long)

def Given.last? (g : Given) (long : String) : Option String := (g.values long).getLast?

/-- Reads short options bunched in one word, after its dash; an option that takes a value takes
the rest of the word, or else the next word. Gives what was read and how many of the next words
it took. -/
def shortOptions (specs : List OptionSpec) (g : Given) (next : Option String) :
    List Char → Option (Given × Nat)
  | [] => some (g, 0)
  | c :: cs =>
    match specs.find? (·.short == some c) with
    | none => none
    | some o =>
      if o.takesValue then
        if !cs.isEmpty then some ({ g with options := g.options ++ [(o.long, String.ofList cs)] }, 0)
        else next.map fun v => ({ g with options := g.options ++ [(o.long, v)] }, 1)
      else shortOptions specs { g with options := g.options ++ [(o.long, "")] } next cs

/-- Reads the words of a command: options anywhere, arguments in order, all words after `--` as
arguments. None for an unknown option, a missing value or a value given to a flag. -/
def readWords (specs : List OptionSpec) (g : Given) : List String → Option Given
  | [] => some g
  | w :: rest =>
    if w == "--" then some { g with arguments := g.arguments ++ rest }
    else if w.startsWith "--" then
      let (name, attached) := match w.splitOn "=" with
        | n :: v :: more => (n, some ("=".intercalate (v :: more)))
        | _ => (w, none)
      match specs.find? (fun o => "--" ++ o.long == name) with
      | none => none
      | some o =>
        if o.takesValue then
          match attached with
          | some v => readWords specs { g with options := g.options ++ [(o.long, v)] } rest
          | none =>
            match rest with
            | v :: rest' => readWords specs { g with options := g.options ++ [(o.long, v)] } rest'
            | [] => none
        else if attached.isSome then none
        else readWords specs { g with options := g.options ++ [(o.long, "")] } rest
    else if w.startsWith "-" && w.length > 1 then
      match shortOptions specs g rest.head? (w.toList.drop 1) with
      | some (g', used) => readWords specs g' (rest.drop used)
      | none => none
    else readWords specs { g with arguments := g.arguments ++ [w] } rest
termination_by ws => ws.length
decreasing_by all_goals (simp only [List.length_cons, List.length_drop]; omega)

/-! ## Commands -/

def runOptions : List OptionSpec :=
  [⟨"plugin", some 'p', true⟩, ⟨"define", some 'D', true⟩, ⟨"config", some 'c', true⟩,
   ⟨"json", none, false⟩, ⟨"verbose", some 'v', false⟩, ⟨"help", none, false⟩]

def buildOptions : List OptionSpec :=
  [⟨"config", some 'c', true⟩, ⟨"json", none, false⟩, ⟨"verbose", some 'v', false⟩,
   ⟨"help", none, false⟩]

def wrapOptions : List OptionSpec :=
  [⟨"name", some 'n', true⟩, ⟨"json", none, false⟩, ⟨"help", none, false⟩]

/-- Variables given as `NAME=VALUE`: the name is trimmed and must not be blank; a later name
replaces an earlier one in its place. The error is the message for the first word that is no
such pair. -/
def parseDefinesInto (acc : Ledger String) : List String → Except String (Ledger String)
  | [] => .ok acc
  | item :: rest =>
    match item.splitOn "=" with
    | name :: v :: more =>
      if isBlankText name then .error s!"expected NAME=VALUE, got '{item}'"
      else parseDefinesInto (acc.insert (trim name) ("=".intercalate (v :: more))) rest
    | _ => .error s!"expected NAME=VALUE, got '{item}'"

/-- Variables given as `NAME=VALUE`, from none. -/
def parseDefines (items : List String) : Except String (Ledger String) := parseDefinesInto {} items

abbrev Files := List (String × String)

/-- The parts of a path that name something: no empty parts and no `.`. -/
def pathParts (p : String) : List String := (p.splitOn "/").filter fun s => s != "" && s != "."

/-- Whether a path names a directory: the working directory or one above it, or a directory
that holds one of the files. -/
def isDirectory (files : Files) (path : String) : Bool :=
  let parts := pathParts path
  parts.all (· == "..") ||
    (!path.startsWith "/" && files.any fun (f, _) =>
      let fileParts := pathParts f
      parts.length < fileParts.length && fileParts.take parts.length == parts)

/-- The text of a file, read with universal line breaks. -/
def readFile? (files : Files) (path : String) : Option String :=
  (files.find? fun (p, _) => normalPath p == normalPath path).map fun (_, t) => readAsText t

/-- The fault of reading a directory as a file. -/
def directoryRead : Outcome := crash "IsADirectoryError"

/-- The text of a source file, or the outcome when it is not a file. -/
def readSource (files : Files) (path : String) : Except Outcome String :=
  match readFile? files path with
  | some t => .ok t
  | none =>
    if isDirectory files path then .error directoryRead
    else .error (failure s!"File not found: {normalPath path}")

/-- The texts of source files in order, or the outcome of the first that is not a file. -/
def readAll (files : Files) : List String → Except Outcome (List String)
  | [] => .ok []
  | p :: ps => do
    let t ← readSource files p
    let ts ← readAll files ps
    return t :: ts

/-- The outcome of a settings file that could not be used: a message for a fault of the file,
and a crash for a value that cannot be built, which the command does not expect. -/
def configFailure (e : ConfigError) : Outcome :=
  match e with
  | .badValue f => crash f.kindName
  | e => failure e.message

/-- The settings file: the one given, or else `vsysc.yaml` if it exists. -/
def settingsOf (files : Files) (given : Option String) : Except Outcome Settings :=
  let path := given.getD "vsysc.yaml"
  if readFile? files path == none && isDirectory files path then .error directoryRead
  else (Settings.load (normalPath path) (readFile? files path)).mapError configFailure

/-- The outcome of a plugin that could not be loaded: a message for a fault of the plugin, and
a crash for a fault of the host. -/
def pluginFailure : RegistryError → Outcome
  | .hostFault kind _ => crash kind
  | e => failure e.message

/-- Loads plugins in order into a context's registry, or gives the first failure. -/
def loadPlugins (installed : List Plugin) (c : Context) : List String → Except Outcome Context
  | [] => .ok c
  | p :: ps =>
    match c.keywords.loadPlugin installed p with
    | (_, some e) => .error (pluginFailure e)
    | (r, none) => loadPlugins installed { c with keywords := r } ps

/-- The context configured by a settings file and plugins. -/
def contextOf (installed : List Plugin) (files : Files) (config : Option String)
    (plugins : List String) : Except Outcome Context := do
  let settings ← settingsOf files config
  loadPlugins installed (Context.ofSettings settings) (settings.plugins ++ plugins)

/-- Runs sources in order on a machine, giving the values of the last, or the first fault. -/
def runAll (m : Machine) (last : List Value) : List String → Except Fault (List Value)
  | [] => .ok last
  | s :: ss =>
    match (execute s).on m with
    | (.ok vs, m') => runAll m' vs ss
    | (.error f, _) => .error f

/-- The lines that print values, one to a line, a list as its items in brackets. -/
def plainLines (vs : List Value) : String :=
  String.join (vs.map fun v => match v with
    | .list items => Text.Console.plain ("[" ++ ", ".intercalate (items.map Value.display) ++ "]")
    | v => Text.Console.plain v.display)

def valueJson : Value → Json
  | .text s => .str s
  | .int n => .int n
  | .null => .null
  | .list items => .arr (items.attach.map fun ⟨v, _⟩ => valueJson v)

def run (installed : List Plugin) (files : Files) (g : Given) : Outcome :=
  if g.arguments.isEmpty then usageError else
  match readAll files g.arguments with
  | .error o => o
  | .ok sources =>
    match parseDefines (g.values "define") with
    | .error _ => usageError
    | .ok defines =>
      match contextOf installed files (g.last? "config") (g.values "plugin") with
      | .error o => o
      | .ok c =>
        let c := { c with «variables» := defines.entries.foldl (fun l (k, v) => l.insert k v) c.«variables» }
        match runAll { context := c } [] sources with
        | .error .tooDeep => crash "RecursionError"
        | .error f => failure f.message
        | .ok vs =>
          if g.has "json" then { exitCode := 0, stdout := (Json.arr (vs.map valueJson)).render ++ "\n" }
          else { exitCode := 0, stdout := plainLines vs }

def build (installed : List Plugin) (files : Files) (g : Given) : Outcome :=
  match g.arguments with
  | [file] =>
    match readSource files file with
    | .error o => o
    | .ok source =>
      match contextOf installed files (g.last? "config") [] with
      | .error o => o
      | .ok c =>
        let doc := (Document.read (c.readOptions false) c.«variables» source).doc
        { exitCode := 0, stdout := doc.toJsonText ++ "\n" }
  | _ => usageError

def wrap (files : Files) (g : Given) : Outcome :=
  match g.arguments with
  | [file] =>
    match readSource files file with
    | .error o => o
    | .ok text =>
      let name := match g.last? "name" with
        | some n => if n.isEmpty then stem file else n
        | none => stem file
      let doc := (({} : Context).textToDocument text name).doc
      { exitCode := 0, stdout := doc.toJsonText ++ "\n" }
  | _ => usageError

/-- Reads the words before the command: `--version` and `--help`; gives whether the version was
asked for and the command's words, or none for a mistake. -/
def readLeading : List String → Bool → Option (Bool × List String)
  | [], v => some (v, [])
  | w :: rest, v =>
    if w == "--version" then readLeading rest true
    else if w == "--" then some (v, rest)
    else if w.startsWith "-" && w.length > 1 then none
    else some (v, w :: rest)

/-- Runs a command line, given the plugins installed and the files it may read. -/
def main (installed : List Plugin) (files : Files) (args : List String) : Outcome :=
  if args.isEmpty then usageError else
  match readLeading args false with
  | none => usageError
  | some (true, _) => { exitCode := 0, stdout := version ++ "\n" }
  | some (false, []) => usageError
  | some (false, cmd :: rest) =>
    let specs := if cmd == "run" then runOptions else if cmd == "build" then buildOptions
      else wrapOptions
    if !(cmd == "run" || cmd == "build" || cmd == "wrap") then usageError else
    match readWords specs {} rest with
    | none => usageError
    | some g =>
      if g.has "help" then { exitCode := 0 }
      else if cmd == "run" then run installed files g
      else if cmd == "build" then build installed files g
      else wrap files g

end Colonnade.Cli
