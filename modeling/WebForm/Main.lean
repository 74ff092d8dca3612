import WebForm.CommandLine.Run
/-!
# The program

The command line in the world outside: real files, and standard output.
-/

set_option autoImplicit false

namespace WebForm

open Files

/-- An error of the system as an error of a file. -/
def Files.FileError.ofSystem : IO.Error → FileError
  | .noFileOrDirectory _ _ _ => .notFound
  | .inappropriateType _ code _ => if code = 21 then .isDirectory else .notDirectory
  | e => .other (toString e)

/-- Tries an action on a file. -/
def attempt {α : Type} (action : IO α) : IO (Except FileError α) := do
  match ← action.toBaseIO with
  | .ok a => return .ok a
  | .error e => return .error (.ofSystem e)

instance : Workspace IO where
  pathExists path := do
    match ← attempt (IO.FS.readFile path) with
    | .error .notFound | .error .notDirectory => return false
    | _ => return true
  readText path := attempt (IO.FS.readFile path)
  makeDirectories path := attempt (IO.FS.createDirAll path)
  writeText path content := attempt (IO.FS.writeFile path content)
  say line := IO.println line

end WebForm

/-- Runs the command line and ends with its exit code. -/
def main (arguments : List String) : IO UInt32 := do
  let outcome ← WebForm.CommandLine.runArguments arguments
  IO.eprint outcome.complaint
  return outcome.code
