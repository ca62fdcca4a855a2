import Gemtext.Command.Run
import Gemtext.Standard.Arguments
import Gemtext.Standard.Library
import Gemtext.Standard.Settings

/-!
# The command line

Runs the command on the files of the system.
-/

namespace Gemtext

namespace Command

/-- The result of looking at the file system, and `false` if that fails. -/
def orFalse (x : IO Bool) : IO Bool :=
  try x catch _ => pure false

/-- The result of reading or writing, and the reason if that fails. -/
def orReason {α : Type} (x : IO α) : IO (Except Text α) :=
  try Except.ok <$> x catch e => pure (.error (toString e).toList)

/-- The file system as a host. -/
def systemHost : Host IO where
  readInput := do
    pure (← (← IO.getStdin).readBinToEnd).toList
  isFile path := orFalse do
    let found ← (← IO.FS.realPath (String.ofList path)).metadata
    pure (found.type matches .file)
  isDirectory path := orFalse do
    (← IO.FS.realPath (String.ofList path)).isDir
  readFile path := orReason do
    pure (← IO.FS.readBinFile (String.ofList path)).toList
  writeFile path content := orReason do
    IO.FS.writeBinFile (String.ofList path) ⟨content.toArray⟩

end Command

end Gemtext

open Gemtext.Command in
/-- Run the command and end with its exit code. -/
def main (arguments : List String) : IO UInt32 := do
  let outcome ← run .standard .standard systemHost .standard (arguments.map String.toList)
  IO.print (String.ofList outcome.output)
  IO.eprint (String.ofList outcome.errors)
  pure (.ofNat outcome.code)
