import WebForm.Field.Basic
/-!
# Forms

A form is a title and its top-level fields.
-/

set_option autoImplicit false

namespace WebForm

/-- A form. -/
structure Form where
  title : String
  fields : List Field
deriving Repr

/-- How strictly a form is checked when it is loaded. -/
inductive Strictness where
  /-- Every rule holds. -/
  | strict
  /-- Unknown types, missing options and stray members are put up with. -/
  | permissive
deriving DecidableEq, Repr

namespace Strictness

/-- The spelling in settings. -/
def spelling : Strictness → String
  | .strict => "strict"
  | .permissive => "permissive"

/-- The strictness of a spelling. -/
def ofSpelling? : String → Option Strictness
  | "strict" => some .strict
  | "permissive" => some .permissive
  | _ => none

end Strictness

namespace Form

/-- The number of fields in the whole form. -/
def fieldCount (form : Form) : Nat := Field.countAll form.fields

/-- How deep lists of objects nest in the form; a flat form has depth 0. -/
def depth (form : Form) : Nat := Field.depthAll form.fields

/-- All fields in preorder, each with its dotted path. -/
def walk (form : Form) : List (String × Field) := Field.walkAll "" form.fields

/-- The number of fields is the length of the walk. -/
theorem length_walk (form : Form) : form.walk.length = form.fieldCount :=
  Field.length_walkAll "" form.fields

end Form

end WebForm
