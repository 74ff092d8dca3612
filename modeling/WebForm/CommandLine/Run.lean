import WebForm.CommandLine.Arguments
import WebForm.CommandLine.Samples
import WebForm.Project
/-!
# Running commands

What each command does and prints. A command that fails says why in one line and ends with the
exit code of its error; what was printed and written before stays.
-/

set_option autoImplicit false

namespace WebForm.CommandLine

open Files Project

variable {m : Type → Type} [Monad m] [Workspace m]

/-- The settings of a command: those of the file, overridden by its options. -/
def commandSettings (form : FormOptions) (output : Option String) (withSupport : Bool) :
    ExceptT ProjectError m Settings := do
  let settings ← loadSettings form.settings
  return settings.override
    { output := output
      support := if withSupport then some true else none
      permissive := if form.permissive then some true else none }

/-- The line above and below the content of a file. -/
def rule : String := String.ofList (List.replicate 60 '─')

/-- Writes one file, or shows it only. -/
def deliver (dryRun : Bool) (file : OutputFile) : ExceptT ProjectError m Unit := do
  if dryRun then
    Workspace.say ("[dry-run] Would write " ++ file.path ++ ":")
    Workspace.say rule
    Workspace.say file.content
    Workspace.say rule
  else
    writeFile file
    Workspace.say ("✓ " ++ file.path ++ " (" ++ toString file.content.utf8ByteSize ++ " bytes)")

/-- Generates the files of a form. -/
def runGenerate (form : FormOptions) (output : Option String) (dryRun withSupport : Bool) :
    ExceptT ProjectError m Unit := do
  let settings ← commandSettings form output withSupport
  Workspace.say ("Compiling " ++ form.config)
  let plan ← plan settings form.config
  plan.compiled.schema.warnings.forM fun w =>
    Workspace.say ("Warning: " ++ w.field ++ ": " ++ w.message)
  plan.files.forM (deliver dryRun)

/-- Tells whether the generated files are up to date. -/
def runCheck (form : FormOptions) (output : Option String) (withSupport : Bool) :
    ExceptT ProjectError m Unit := do
  let settings ← commandSettings form output withSupport
  Workspace.say "Checking generated files..."
  let drifts ← check settings form.config
  if drifts.isEmpty then Workspace.say "✓ Generated files are up-to-date"
  else
    drifts.forM fun d => Workspace.say ("  ✗ " ++ d.path ++ " (" ++ d.label ++ ")")
    Workspace.say "  Run 'formsmith generate' to update"
    throw (.outOfDate drifts.length)

/-- The place of an error, in which the empty path is the submission as a whole. -/
def placeOf (field : String) : String := if field.isEmpty then "(root)" else field

/-- Checks submitted data against a form. -/
def runValidate (form : FormOptions) (data : String) : ExceptT ProjectError m Unit := do
  let settings ← commandSettings form none false
  let result ← validate settings form.config data
  if result.valid then Workspace.say "✓ Submission is valid"
  else
    result.errors.forM fun e =>
      Workspace.say ("  ✗ " ++ placeOf e.field ++ ": " ++ e.message ++ " [" ++ e.code ++ "]")
    throw (.rejected result.errors.length)

/-- Prints the default values of a form. -/
def runDefaults (form : FormOptions) : ExceptT ProjectError m Unit := do
  let settings ← commandSettings form none false
  let loaded ← loadForm settings.strictness form.config
  Workspace.say ((Json.object loaded.defaults).pretty 0)

/-- The first path at which there is something. -/
def firstExisting : List String → ExceptT ProjectError m (Option String)
  | [] => return none
  | path :: rest => do
    if ← Workspace.pathExists path then return some path
    else firstExisting rest

/-- Writes a settings file and a sample form, over files that are there only if forced. -/
def runInit (dir : String) (force : Bool) : ExceptT ProjectError m Unit := do
  let settingsPath := joinName dir settingsFile
  let formPath := joinName dir "form.json"
  if !force then
    match ← firstExisting [settingsPath, formPath] with
    | some path => throw (.settings (.alreadyExists path))
    | none => pure ()
  writeFile ⟨settingsPath, sampleSettings⟩
  Workspace.say ("✓ Created " ++ settingsPath)
  writeFile ⟨formPath, sampleForm⟩
  Workspace.say ("✓ Created " ++ formPath)
  Workspace.say ("\nNext: formsmith generate --config " ++ formPath)

/-- Lists the packages that generated code depends on. -/
def runPackages : ExceptT ProjectError m Unit := do
  Workspace.say "Required packages:"
  Support.packages.forM fun p =>
    Workspace.say ("  " ++ p.name ++ " " ++ p.version ++ " - " ++ p.description)
  Workspace.say ("\n" ++ Support.installCommand)

/-- Runs a command. -/
def runCommand : Command → ExceptT ProjectError m Unit
  | .generate form output dryRun withSupport => runGenerate form output dryRun withSupport
  | .check form output withSupport => runCheck form output withSupport
  | .validate form data => runValidate form data
  | .defaults form => runDefaults form
  | .init dir force => runInit dir force
  | .packages => runPackages

/-! ## The program -/

/-- How the program ends: its exit code, and what it says about an error. -/
structure Outcome where
  code : UInt32
  complaint : String
deriving DecidableEq, Repr

/-- The name and version of the program. -/
def versionText : String := "formsmith 0.1.0"

/-- How the program is used. -/
def usageText : String :=
  "Usage: formsmith [-v] <generate|check|validate|defaults|init|packages> [options]"

/-- Runs the program with some arguments. -/
def runArguments (arguments : List String) : m Outcome := do
  match readArguments arguments with
  | .version => do
    Workspace.say versionText
    return ⟨0, ""⟩
  | .help => do
    Workspace.say usageText
    return ⟨0, ""⟩
  | .usageError => return ⟨2, usageText ++ "\n"⟩
  | .run c => do
    match ← (runCommand c : ExceptT ProjectError m Unit).run with
    | .ok () => return ⟨0, ""⟩
    | .error e => return ⟨e.exitCode, "Error: " ++ e.message ++ "\n"⟩

end WebForm.CommandLine
