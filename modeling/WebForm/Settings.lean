import WebForm.Form.Basic
import WebForm.Source.Style
import WebForm.Toml.Document
/-!
# Settings

Where generated files go, in which style they are written, and how strictly forms are checked. The
settings come from a file, in which everything is optional, and options of the command line
override them.
-/

set_option autoImplicit false

namespace WebForm

/-- The settings of a project. -/
structure Settings where
  /-- The directory of the generated files. -/
  outputDir : String := "./generated"
  /-- Whether the support files are generated too. -/
  support : Bool := false
  style : Source.Style := {}
  strictness : Strictness := .strict
deriving DecidableEq, Repr

/-- What the command line says about the settings. -/
structure Overrides where
  output : Option String := none
  support : Option Bool := none
  permissive : Option Bool := none
deriving DecidableEq, Repr

namespace Settings

/-- The settings with what the command line says in place of them. -/
def override (s : Settings) (o : Overrides) : Settings where
  outputDir := o.output.getD s.outputDir
  support := o.support.getD s.support
  style := s.style
  strictness :=
    match o.permissive with
    | none => s.strictness
    | some true => .permissive
    | some false => .strict

@[simp] theorem override_none (s : Settings) : s.override {} = s := rfl

/-! ## Reading -/

open Toml

/-- A member that may be missing; one that is there has to be right. -/
def optional {α : Type} (fallback : α) (decode : Value → Option α) : Option Value → Option α
  | none => some fallback
  | some v => decode v

/-- A text. -/
def text? : Value → Option String
  | .string s => some s
  | _ => none

/-- A truth value. -/
def boolean? : Value → Option Bool
  | .boolean b => some b
  | _ => none

/-- The members of a record that may be missing as a whole. -/
def members (names : List String) : Option Value → Option (String → Option Value)
  | none => some fun _ => none
  | some v => v.record? names

/-- The settings of a document. -/
def ofToml? (v : Value) : Option Settings := do
  let sections ← v.record? ["output", "emit", "load"]
  let output ← members ["dir", "support"] (sections "output")
  let emit ← members ["indent", "line_ending"] (sections "emit")
  let load ← members ["strictness"] (sections "load")
  return {
    outputDir := ← optional "./generated" text? (output "dir")
    support := ← optional false boolean? (output "support")
    style := {
      indent := ← optional .spaces2 (fun v => v.constant?.bind Source.Indent.ofSpelling?)
        (emit "indent")
      lineEnding := ← optional .lf (fun v => v.constant?.bind Source.LineEnding.ofSpelling?)
        (emit "line_ending") }
    strictness := ← optional .strict (fun v => v.constant?.bind Strictness.ofSpelling?)
      (load "strictness") }

/-- The settings of a text, if it is well-formed and right. -/
def parse? (text : String) : Option Settings := (Toml.parse text).bind ofToml?

end Settings

end WebForm
