import WidgetLocator.Program

namespace WidgetLocator

/-- The text of a file, if it can be read. -/
def readText? (path : String) : IO (Option String) := do
  try
    return some (← IO.FS.readFile path)
  catch _ =>
    return none

/-- Reads the files at some paths. -/
def readTexts (paths : List String) : IO FileTexts := do
  let texts ← paths.mapM fun path => do return (path, ← readText? path)
  return fun path => (field? texts path).join

end WidgetLocator

open WidgetLocator in
def main (arguments : List String) : IO UInt32 := do
  let outcome ← match Arguments.parse arguments with
    | .error e => pure e.outcome
    | .ok arguments => do
      let files ← readTexts arguments.paths
      pure (arguments.run files (← (← IO.getStdout).isTty))
  IO.print outcome.output
  match outcome.complaint with
  | some text => IO.eprintln text
  | none => pure ()
  return outcome.exit
