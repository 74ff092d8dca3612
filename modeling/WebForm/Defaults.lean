import WebForm.Form.Basic
/-!
# Default values

What a form starts from: an object with the default of every field, in the order of the fields. A
name that is declared twice keeps its first place and takes its last value. Fields of an unknown
kind start from the empty text, so that every form has defaults.
-/

set_option autoImplicit false

namespace WebForm

namespace Field

/-- What the field starts from. -/
def defaultRule (f : Field) : DefaultRule :=
  match f.kind? with
  | some kind => kind.defaultRule
  | none => .emptyString

/-- The names of the fields with their defaults, as the members of an object. -/
def defaults (fields : List Field) : List (String × Json) :=
  Json.collectMembers (fields.map fun f => (f.name, f.defaultRule.value))

/-- What a new item of a list starts from: the defaults of its fields, or that of the kind of its
items. -/
def itemTemplate (f : Field) : Json :=
  if f.children.isEmpty then f.itemKind.defaultRule.value else .object (defaults f.children)

end Field

/-- The default values of a form. -/
def Form.defaults (form : Form) : List (String × Json) := Field.defaults form.fields

end WebForm
