import WebForm.Artifact
import WebForm.Form.Load
import WebForm.Schema.Compile
/-!
# Compiled forms

All that is made of a form: its identifiers, its schema, its default values and its artifacts.
Identifiers come first and the schema second, and nothing is generated if one of them fails.
-/

set_option autoImplicit false

namespace WebForm

/-- Why a form could not be compiled. -/
inductive FormError where
  | load (e : LoadError)
  | identifier (e : IdentifierError)
  | schema (e : Schema.CompileError)
deriving DecidableEq, Repr

/-- What is wrong with the form, as a whole sentence. -/
def FormError.message (e : FormError) : String :=
  "Invalid configuration: " ++
    match e with
    | .load e => e.message
    | .identifier e => e.message
    | .schema e => e.message

/-- What is made of a form. -/
structure CompiledForm where
  identifiers : Identifiers
  schema : Schema.ValidationSchema
  defaults : List (String × Json)
  artifacts : List Artifact

/-- Compiles a form, with its artifacts in a style. -/
def Form.compile (style : Source.Style) (form : Form) : Except FormError CompiledForm := do
  let ids ← (Identifiers.ofTitle form.title).mapError .identifier
  let schema ← (Schema.ValidationSchema.ofForm form).mapError .schema
  return ⟨ids, schema, form.defaults, ArtifactKind.all.map (Artifact.ofForm style ids form)⟩

/-- Loads a form from a text and compiles it. -/
def Form.compileText (style : Source.Style) (strictness : Strictness) (text : String) :
    Except FormError CompiledForm := do
  let form ← (loadText strictness text).mapError .load
  form.compile style

end WebForm
