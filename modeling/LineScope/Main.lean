import LineScope.Command.Run
import LineScope.Grammar.Bundled

/-!
# The program

Reads the files that the arguments name, runs the command and prints what it leaves behind.
-/
namespace LineScope

/-- Why the system gave no answer. -/
def ReadFault.ofSystem : IO.Error → ReadFault
  | .noFileOrDirectory _ _ _ => .missing
  | e => .other (toString e)

/-- Reads a file of the system. -/
def readFile (path : FilePath) : IO (Except ReadFault (List UInt8)) := do
  try
    if ← (← IO.FS.realPath path.display).isDir then return .error .directory
    return .ok (← IO.FS.readBinFile path.display).toList
  catch e => return .error (.ofSystem e)

def workingDirectory : IO (Except ReadFault FilePath) := do
  try
    return .ok (.ofText (← IO.currentDir).toString)
  catch e => return .error (.ofSystem e)

def readFiles (paths : List FilePath) : IO Files := do
  let contents ← paths.mapM fun path => do return (path, ← readFile path)
  return .ofContents contents

/-- Whether output is to be coloured: on a terminal, unless the environment says otherwise. -/
def wantsColour : IO Bool := do
  match ← IO.getEnv "CLICOLOR_FORCE" with
  | some value => if value ≠ "0" then return true
  | none => pure ()
  if (← IO.getEnv "NO_COLOR").isSome then return false
  (← IO.getStdout).isTty

end LineScope

open LineScope in
def main (arguments : List String) : IO UInt32 := do
  let cwd ← workingDirectory
  let files ← readFiles (cwd.toOption.elim [] (pathsRead · arguments))
  let out := runProgram ⟨cwd, files, Engine.bundled, Clock.nominal, .bundled, ← wantsColour⟩ arguments
  (← IO.getStdout).putStr out.stdout
  (← IO.getStderr).putStr out.stderr
  return UInt32.ofNat out.code
