/-
  The program.

  It reads its words, its environment and the file `.env`, and prints what the start comes to.
-/
import Gatehouse.CommandLine.Launch

open Gatehouse CommandLine

/-- The text of a file, if there is one. -/
def readIfPresent (path : String) : IO (Option String) := do
  try return some (← IO.FS.readFile path) catch _ => return none

/-- The variables with these names. -/
def environment (names : List String) : IO Variables := do
  let found ← names.filterMapM fun name => do return (← IO.getEnv name).map ((name, ·))
  return fun name => found.lookup name

def main (words : List String) : IO UInt32 := do
  let file ← readIfPresent ".env"
  let references := (file.map fun text => EnvFile.references text.toList).getD []
  let vars ← environment ("RUST_LOG" :: Setting.all.map Setting.source ++ references)
  let report := start words vars file
  report.output.forM IO.println
  report.errors.forM IO.eprintln
  return report.exit
