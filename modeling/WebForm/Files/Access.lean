import WebForm.Files.System
/-!
# Access to files and the terminal

What a command needs of the world around it. Commands are written for any world that offers this;
the one of this module is a file system in memory together with the lines that were printed.
-/

set_option autoImplicit false

namespace WebForm.Files

/-- A world with files and a terminal. -/
class Workspace (m : Type → Type) where
  /-- Whether there is anything at a path. -/
  pathExists : String → m Bool
  /-- The content of a file. -/
  readText : String → m (Except FileError String)
  /-- Makes a directory, and those on the way to it. -/
  makeDirectories : String → m (Except FileError Unit)
  /-- Writes a file. -/
  writeText : String → String → m (Except FileError Unit)
  /-- Prints a line. -/
  say : String → m Unit

instance {ε : Type} {m : Type → Type} [Monad m] [Workspace m] : Workspace (ExceptT ε m) where
  pathExists path := ExceptT.lift (Workspace.pathExists path)
  readText path := ExceptT.lift (Workspace.readText path)
  makeDirectories path := ExceptT.lift (Workspace.makeDirectories path)
  writeText path content := ExceptT.lift (Workspace.writeText path content)
  say line := ExceptT.lift (Workspace.say line)

/-- A world in memory. -/
structure World where
  files : FileSystem := {}
  /-- What was printed, with the last line first. -/
  printed : List String := []

/-- Computations in a world in memory. -/
abbrev InMemory := StateM World

namespace World

/-- Everything that was printed. -/
def output (w : World) : String :=
  String.join (w.printed.reverse.map fun line => line ++ "\n")

/-- Changes the files, unless the change fails. -/
def change (f : FileSystem → Except FileError FileSystem) : InMemory (Except FileError Unit) :=
  fun w =>
    match f w.files with
    | .ok files => (.ok (), { w with files := files })
    | .error e => (.error e, w)

end World

instance : Workspace InMemory where
  pathExists path := fun w => (w.files.pathExists path, w)
  readText path := fun w => (w.files.read path, w)
  makeDirectories path := World.change (·.makeDirectories path)
  writeText path content := World.change (·.write path content)
  say line := fun w => ((), { w with printed := line :: w.printed })

end WebForm.Files
