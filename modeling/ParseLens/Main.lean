import ParseLens.CommandLine.Run

set_option autoImplicit false

/-!
# The program

The outermost layer: it reads the files that the arguments name, runs the command and prints what it
leaves behind.
-/

namespace ParseLens

open CommandLine (Invocation ReadFault)

/-- Read a file as text. -/
def readText (path : String) : IO (Except ReadFault String) := do
  try
    return CommandLine.textOfBytes (← IO.FS.readBinFile path)
  catch
    | .noFileOrDirectory _ _ _ => return .error .missing
    | e => return .error (.other (toString e))

/-- What is printed when the arguments are not understood. -/
def usage : String :=
  "usage: [-c FILE] check GRAMMAR\n" ++
    "       [-c FILE] request GRAMMAR [-i TEXT] [--flat]\n" ++
    "       [-c FILE] show RESPONSE [-g GRAMMAR] [-v sets|table|simulation|all] [-s STEP]\n"

end ParseLens

open ParseLens in
/-- Run the program. -/
def main (args : List String) : IO UInt32 := do
  match CommandLine.Invocation.parse args with
  | none =>
    (← IO.getStderr).putStr usage
    return 2
  | some invocation =>
    let texts ← invocation.paths.mapM fun path => return (path, ← readText path)
    let files path := (texts.lookup path).getD (.error .missing)
    let output := invocation.run files
    (← IO.getStdout).putStr output.stdout
    (← IO.getStderr).putStr output.stderr
    return output.code
