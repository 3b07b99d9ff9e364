import DocPages.CommandLine.Run

/-!
# The program

Runs the command line on the files of the machine.
-/

namespace DocPages.CommandLine

/-- The files of the machine. -/
def machineFiles : FileSystem IO where
  entry? path := do
    let place := (← IO.currentDir) / path.text
    if ← place.isDir then return some .directory
    if ← place.pathExists then return some (.file (← IO.FS.readBinFile place).toList)
    return none

end DocPages.CommandLine

open DocPages DocPages.CommandLine

/-- Run the command line. -/
def main (args : List String) : IO UInt32 := do
  let places : Places :=
    { current := Path.parse (← IO.currentDir).toString, templates := Path.parse "templates" }
  let outcome ← run machineFiles places args
  (← IO.getStdout).putStr outcome.output
  (← IO.getStderr).putStr outcome.errors
  match outcome.written with
  | none => pure ()
  | some (path, text) =>
    IO.FS.createDirAll path.parent.text
    IO.FS.writeFile path.text text
  return outcome.exitCode.toUInt32
