import FlatProjection.CommandLine.Run
/-
The `regroup` executable.
-/

namespace FlatProjection.CommandLine

/-- The reason the system gives for a file it cannot read. -/
def systemReason : IO.Error → String
  | .noFileOrDirectory _ _ _ => Host.noSuchFile
  | .inappropriateType _ 21 _ => Host.isDirectory
  | .permissionDenied _ code _ => "Permission denied (os error " ++ toString code ++ ")"
  | e => toString e

/-- Reads a file of the system. -/
def systemFile (path : String) : IO Host.FileRead := do
  try
    return .ok (← IO.FS.readFile path)
  catch e =>
    return .error (systemReason e)

/-- The system's files and environment. -/
def systemResources : Resources IO where
  contentOf := systemFile
  envVar name := do return (← IO.getEnv name)

end FlatProjection.CommandLine

/-- Runs `regroup` on the command line. -/
def main (args : List String) : IO UInt32 := do
  let outcome ← FlatProjection.CommandLine.run FlatProjection.CommandLine.systemResources args
  IO.print outcome.stdout
  IO.eprint outcome.stderr
  return outcome.status.toUInt32
