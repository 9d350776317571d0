import DaemonMesh.Triangle.Program

namespace DaemonMesh

/-- The one file that the arguments may ask for, if it can be read. -/
def configFiles (arguments : List String) : IO FileTree := do
  match TriangleOptions.read? arguments >>= TriangleOptions.config with
  | none => pure .empty
  | some path =>
    try
      let content ← IO.FS.readBinFile path
      match FileTree.empty.place path content with
      | .ok files => pure files
      | .error _ => pure .empty
    catch _ => pure .empty

/-- Prints what the program and the writers log, or complains. -/
def printRun (run : TriangleRun) : IO Unit := do
  match run.complaint? with
  | some complaint => IO.eprintln complaint
  | none => pure ()
  match run with
  | .finished log =>
    for line in log.main ++ log.toA ++ log.toC do
      IO.println line
  | _ => pure ()

end DaemonMesh

def main (arguments : List String) : IO UInt32 := do
  let run := DaemonMesh.runTriangle arguments (← DaemonMesh.configFiles arguments)
  DaemonMesh.printRun run
  pure (UInt32.ofNat run.exitCode)
