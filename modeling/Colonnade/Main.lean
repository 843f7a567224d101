import Colonnade.Cli
/-!
# The program

Reads the files that the command line may name, runs the command line on them, and writes what
it prints. No plugins are installed.
-/

open Colonnade

def readIfPresent (path : String) : IO (Option String) := do
  try
    return some (← IO.FS.readFile path)
  catch _ =>
    return none

def main (args : List String) : IO UInt32 := do
  let mut files : Cli.Files := []
  for p in "vsysc.yaml" :: args do
    if let some t ← readIfPresent p then
      files := files ++ [(p, t)]
  let out := Cli.main [] files args
  IO.print out.stdout
  IO.eprint out.stderr
  return out.exitCode.toUInt32
