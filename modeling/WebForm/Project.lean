import WebForm.Compiled
import WebForm.Files.Access
import WebForm.Settings
import WebForm.Support
/-!
# Projects

Forms and settings as files, and the files that are generated from them. What a form produces is
planned before anything is written, so a form that does not compile changes nothing. A check
compares the plan with the files that are there.
-/

set_option autoImplicit false

namespace WebForm

open Files

/-- Why settings could not be read or set up. -/
inductive SettingsError where
  | invalidToml (path : String)
  | alreadyExists (path : String)
  | unreadable (path : String) (e : FileError)
deriving DecidableEq, Repr

/-- Why a file could not be written. -/
inductive WriteError where
  | createDirectory (path : String) (e : FileError)
  | writeFile (path : String) (e : FileError)
deriving DecidableEq, Repr

/-- Why a command fails. -/
inductive ProjectError where
  | read (path : String) (e : FileError)
  | form (e : FormError)
  /-- Submitted data that is no JSON. -/
  | data (path : String) (e : Fault)
  | settings (e : SettingsError)
  | write (e : WriteError)
  /-- Generated files that differ from what the form produces now. -/
  | outOfDate (count : Nat)
  /-- Submitted data that the form rejects. -/
  | rejected (count : Nat)
deriving DecidableEq, Repr

/-- The wording of the error. -/
def SettingsError.message : SettingsError → String
  | .invalidToml path => s!"Invalid TOML in {path}: the text is malformed"
  | .alreadyExists path => s!"File already exists: {path} (use --force to overwrite)"
  | .unreadable path e => s!"Failed to read config {path}: {e.message}"

/-- The wording of the error. -/
def WriteError.message : WriteError → String
  | .createDirectory path e => s!"Failed to create directory {path}: {e.message}"
  | .writeFile path e => s!"Failed to write file {path}: {e.message}"

namespace ProjectError

/-- The wording of the error. -/
def message : ProjectError → String
  | .read path e => s!"Failed to read {path}: {e.message}"
  | .form e => e.message
  | .data path e => s!"Invalid data in {path}: {(DecodeError.text e).message}"
  | .settings e => "Failed to load settings: " ++ e.message
  | .write e => "Failed to write output: " ++ e.message
  | .outOfDate count => s!"Check failed: {count} file(s) out of date"
  | .rejected count => s!"Validation failed: {count} field error(s)"

/-- The exit code of a command that fails: 2 if it did its work and the answer is no. -/
def exitCode : ProjectError → UInt32
  | .outOfDate _ | .rejected _ => 2
  | _ => 1

end ProjectError

namespace Project

variable {m : Type → Type} [Monad m] [Workspace m]

/-! ## Reading -/

/-- The settings file that is looked for when none is named. -/
def settingsFile : String := "formsmith.toml"

/-- Reads a file. -/
def readFile (path : String) : ExceptT ProjectError m String := do
  match ← Workspace.readText path with
  | .ok content => return content
  | .error e => throw (.read path e)

/-- Reads the settings. A file that is not there stands for the default settings. -/
def loadSettings (path? : Option String) : ExceptT ProjectError m Settings := do
  let path := path?.getD settingsFile
  if ← Workspace.pathExists path then
    match ← Workspace.readText path with
    | .error e => throw (.settings (.unreadable path e))
    | .ok content =>
      match Settings.parse? content with
      | some settings => return settings
      | none => throw (.settings (.invalidToml path))
  else return {}

/-- Reads a form and checks it. -/
def loadForm (strictness : Strictness) (path : String) : ExceptT ProjectError m Form := do
  match Form.loadText strictness (← readFile path) with
  | .ok form => return form
  | .error e => throw (.form (.load e))

/-- Reads submitted data. -/
def loadData (path : String) : ExceptT ProjectError m Json := do
  match Json.parse (← readFile path) with
  | .ok data => return data
  | .error e => throw (.data path e)

/-- Reads a form and compiles it. -/
def compileFile (settings : Settings) (path : String) : ExceptT ProjectError m CompiledForm := do
  let form ← loadForm settings.strictness path
  match form.compile settings.style with
  | .ok compiled => return compiled
  | .error e => throw (.form e)

/-! ## Plans -/

/-- A file to be written. -/
structure OutputFile where
  path : String
  content : String
deriving DecidableEq, Repr

/-- A compiled form, and the files that it produces. -/
structure Plan where
  compiled : CompiledForm
  files : List OutputFile

/-- The files that a compiled form produces, in order. -/
def outputFiles (settings : Settings) (compiled : CompiledForm) : List OutputFile :=
  compiled.artifacts.map (fun a => ⟨joinName settings.outputDir a.fileName, a.content⟩) ++
    if settings.support then
      Support.files.map fun (name, lines) =>
        ⟨joinName settings.outputDir name, settings.style.lines lines⟩
    else []

/-- Plans what the form of a file produces. -/
def plan (settings : Settings) (path : String) : ExceptT ProjectError m Plan := do
  let compiled ← compileFile settings path
  return ⟨compiled, outputFiles settings compiled⟩

/-! ## Writing -/

/-- Makes the directory of a file, unless it is there. -/
def prepareDirectory (path : String) : ExceptT ProjectError m Unit := do
  let dir := parent path
  if dir.isEmpty then return
  if ← Workspace.pathExists dir then return
  match ← Workspace.makeDirectories dir with
  | .ok () => return
  | .error e => throw (.write (.createDirectory dir e))

/-- Writes a file, and makes its directory where that is missing. -/
def writeFile (file : OutputFile) : ExceptT ProjectError m Unit := do
  prepareDirectory file.path
  match ← Workspace.writeText file.path file.content with
  | .ok () => return
  | .error e => throw (.write (.writeFile file.path e))

/-! ## Checking -/

/-- A generated file that is not as it should be. -/
inductive Drift where
  | missing (path : String)
  | changed (path : String)
deriving DecidableEq, Repr

namespace Drift

/-- The path of the file. -/
def path : Drift → String
  | .missing path | .changed path => path

/-- What is wrong with the file. -/
def label : Drift → String
  | .missing _ => "missing"
  | .changed _ => "changed"

end Drift

/-- How a file differs from what was planned, if it does. -/
def driftOf (file : OutputFile) : ExceptT ProjectError m (Option Drift) := do
  if ← Workspace.pathExists file.path then
    let content ← readFile file.path
    return if content = file.content then none else some (.changed file.path)
  else return some (.missing file.path)

/-- The files that differ from what the form of a file produces now. -/
def check (settings : Settings) (path : String) : ExceptT ProjectError m (List Drift) := do
  let plan ← plan settings path
  let drifts ← plan.files.mapM driftOf
  return drifts.filterMap id

/-! ## Submissions -/

/-- Checks the data of one file against the form of another. -/
def validate (settings : Settings) (formPath dataPath : String) :
    ExceptT ProjectError m Schema.ValidationResult := do
  let compiled ← compileFile settings formPath
  let data ← loadData dataPath
  return compiled.schema.validate data

end Project

end WebForm
