import WebForm.Form.Basic
/-!
# Structural rules

What a form must look like before anything is made of it. Both modes ask for a title, and for
names that are there and differ among siblings. Strict mode also asks for labels, known kinds,
options where a kind needs them, and children or an item type only where they make sense.

The rules of a single field are `Field.violation?`, in the order in which they are tried; the walk
over the form reports the first violation in preorder. It looks into lists only, because the
children of other fields mean nothing.
-/

set_option autoImplicit false

namespace WebForm

/-- A violation of a structural rule. Fields are named by their dotted paths. -/
inductive StructuralError where
  | emptyTitle
  | emptyName (parent : String) (index : Nat)
  | emptyLabel (field : String)
  | duplicateName (field : String)
  | unknownKind (field kind : String)
  | missingOptions (field kind : String)
  | unexpectedChildren (field kind : String)
  | conflictingItems (field : String)
  | invalidItemType (field kind : String)
deriving DecidableEq, Repr

namespace StructuralError

/-- The wording of the error. -/
def message : StructuralError → String
  | .emptyTitle => "form title must not be empty"
  | .emptyName parent index =>
    s!"field at position {index} in '{parent}' has an empty name"
  | .emptyLabel field => s!"field '{field}' must have a non-empty label"
  | .duplicateName field => s!"field '{field}' is declared more than once"
  | .unknownKind field kind => s!"field '{field}' has unknown type '{kind}'"
  | .missingOptions field kind =>
    s!"field '{field}' of type '{kind}' requires a non-empty 'options' list"
  | .unexpectedChildren field kind =>
    s!"field '{field}' of type '{kind}' cannot declare nested 'fields'"
  | .conflictingItems field =>
    s!"array field '{field}' declares both nested 'fields' and 'itemType'"
  | .invalidItemType field kind =>
    s!"array field '{field}' has item type '{kind}', which is not a primitive type"

/-- The path of the field at fault, if the error names one. -/
def field? : StructuralError → Option String
  | .emptyTitle | .emptyName _ _ => none
  | .emptyLabel field | .duplicateName field | .unknownKind field _ | .missingOptions field _
  | .unexpectedChildren field _ | .conflictingItems field | .invalidItemType field _ => some field

end StructuralError

namespace Field

/-- The rules for a list of items in strict mode. -/
def arrayViolation? (path : String) (f : Field) : Option StructuralError :=
  match f.spec.itemType with
  | none => none
  | some type =>
    if !f.children.isEmpty then some (.conflictingItems path)
    else if (type.kind?.map FieldKind.isPrimitive).getD false then none
    else some (.invalidItemType path type.spelling)

/-- The rules for a field of a known kind in strict mode. -/
def kindViolation? (path : String) (kind : FieldKind) (f : Field) : Option StructuralError :=
  if kind.hasOptions && f.options.isEmpty then some (.missingOptions path kind.spelling)
  else if kind = .array then arrayViolation? path f
  else if !f.children.isEmpty then some (.unexpectedChildren path kind.spelling)
  else none

/-- The first rule that the field itself violates, `seen` being the names of its elder siblings
and `index` its place among all siblings. -/
def violation? (strictness : Strictness) (parent : String) (index : Nat) (seen : List String)
    (f : Field) : Option StructuralError :=
  let path := joinPath parent f.name
  if Text.isBlank f.name then
    some (.emptyName (if parent.isEmpty then "form" else parent) index)
  else if seen.contains f.name then some (.duplicateName path)
  else
    match strictness with
    | .permissive => none
    | .strict =>
      if Text.isBlank f.label then some (.emptyLabel path)
      else
        match f.spec.type with
        | .unrecognized raw => some (.unknownKind path raw)
        | .known kind => kindViolation? path kind f

mutual

/-- Checks a field, and its children if it is a list. -/
def check (strictness : Strictness) (parent : String) (index : Nat) (seen : List String) :
    Field → Except StructuralError Unit
  | ⟨spec, children⟩ =>
    match violation? strictness parent index seen ⟨spec, children⟩ with
    | some e => .error e
    | none =>
      if spec.type.kind? = some .array then
        checkAll strictness (joinPath parent spec.name) 0 [] children
      else .ok ()
termination_by structural f => f

/-- Checks siblings from left to right. -/
def checkAll (strictness : Strictness) (parent : String) (index : Nat) (seen : List String) :
    List Field → Except StructuralError Unit
  | [] => .ok ()
  | f :: rest => do
    check strictness parent index seen f
    checkAll strictness parent (index + 1) (f.name :: seen) rest
termination_by structural fs => fs

end

end Field

namespace Form

/-- Checks the form, title first. -/
def check (strictness : Strictness) (form : Form) : Except StructuralError Unit :=
  if Text.isBlank form.title then .error .emptyTitle
  else Field.checkAll strictness "" 0 [] form.fields

end Form

end WebForm
