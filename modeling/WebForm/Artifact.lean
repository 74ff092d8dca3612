import WebForm.Component.File
import WebForm.Interface
import WebForm.Zod.Schema
/-!
# Artifacts

The three source files that are generated for a form. What an artifact says does not depend on the
style: it is a list of lines, which the style only writes down.
-/

set_option autoImplicit false

namespace WebForm

/-- The kinds of artifacts. -/
inductive ArtifactKind where
  | component | schema | types
deriving DecidableEq, Repr

namespace ArtifactKind

/-- All kinds in order. -/
def all : List ArtifactKind := [.component, .schema, .types]

/-- The spelling of a kind. -/
def spelling : ArtifactKind → String
  | .component => "component"
  | .schema => "schema"
  | .types => "types"

/-- The kind of a spelling. -/
def ofSpelling? (s : String) : Option ArtifactKind := all.find? (·.spelling == s)

/-- The name of what makes artifacts of a kind. -/
def emitterName : ArtifactKind → String
  | .component => "React Component Emitter"
  | .schema => "Zod Schema Emitter"
  | .types => "TypeScript Types Emitter"

/-- The extension of the file names. -/
def extension : ArtifactKind → String
  | .component => "tsx"
  | .schema | .types => "ts"

/-- The name of the file for a form. -/
def fileName (kind : ArtifactKind) (ids : Identifiers) : String :=
  match kind with
  | .component => ids.componentFile
  | .schema => "schema.ts"
  | .types => "types.ts"

/-- The lines of the artifact of a form. -/
def lines (kind : ArtifactKind) (ids : Identifiers) (form : Form) : List Source.Line :=
  match kind with
  | .component => Component.fileLines ids form
  | .schema => Zod.schemaLines ids form.fields
  | .types => Interface.fileLines ids form.fields

end ArtifactKind

/-- A generated file. -/
structure Artifact where
  kind : ArtifactKind
  fileName : String
  content : String
deriving DecidableEq, Repr

namespace Artifact

/-- The artifact of a form, written in a style. -/
def ofForm (style : Source.Style) (ids : Identifiers) (form : Form) (kind : ArtifactKind) :
    Artifact :=
  ⟨kind, kind.fileName ids, style.lines (kind.lines ids form)⟩

/-- The number of lines of the content. -/
def lineCount (a : Artifact) : Nat := (Text.lines a.content).length

end Artifact

end WebForm
