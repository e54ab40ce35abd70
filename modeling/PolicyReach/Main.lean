import PolicyReach.Program

/-!
# The executable

The files that a command names are read first. No other program can be started from here, so a probe
finds out nothing about a cluster and reports its cells as unknown.
-/
namespace PolicyReach

/-- Why a file cannot be read. -/
def readFault : IO.Error → String
  | .noFileOrDirectory .. => "No such file or directory (os error 2)"
  | .permissionDenied .. => "Permission denied (os error 13)"
  | .inappropriateType .. => "Is a directory (os error 21)"
  | e => toString e

def readFile (path : String) : IO (Except String String) := do
  try
    match String.fromUTF8? (← IO.FS.readBinFile path) with
    | some s => return .ok s
    | none => return .error "stream did not contain valid UTF-8"
  catch e => return .error (readFault e)

/-- An agent that cannot try anything. -/
def idleAgent : Agent := fun _ _ _ =>
  ⟨some 0, .error (.io "no program can be started"), false⟩

def readWorld (words : List String) : IO World := do
  let paths :=
    match CommandLine.parse words with
    | .ok i => i.command.paths
    | .error _ => []
  let files ← paths.mapM fun path => return (path, ← readFile path)
  return {
    readText := fun path => (files.lookup path).getD (.error "the file was not read")
    agent := fun _ => idleAgent }

end PolicyReach

def main (words : List String) : IO UInt32 := do
  let ending := PolicyReach.Program.run (← PolicyReach.readWorld words) words
  IO.print ending.stdout
  IO.eprint ending.stderr
  return ending.code.toUInt32
