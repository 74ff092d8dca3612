import WebForm.Field.Basic
import WebForm.Identifier
import WebForm.Source.Literal
/-!
# Names inside a component

Every list at the top of a form binds three handles in the generated component: its items, and the
functions that append and remove one. Handles are named after the field and numbered where two
fields would share a name.
-/

set_option autoImplicit false

namespace WebForm.Component

/-! ## Distinct names -/

/-- The candidates for a name: the base itself, then the base with 2, 3, … behind it. -/
def candidate (base : String) : Nat → String
  | 0 => base
  | n + 1 => base ++ toString (n + 2)

/-- The first candidate that is not taken. There are more candidates than names taken. -/
def freeName (taken : List String) (base : String) : String :=
  (((List.range (taken.length + 1)).map (candidate base)).find? (!taken.contains ·)).getD base

/-! ## Handles -/

/-- The names that a list of fields binds. -/
structure Handles where
  fields : String
  append : String
  remove : String
deriving DecidableEq, Repr

namespace Handles

/-- The handles of a list at the top of a form. -/
def ofBase (base : String) : Handles := ⟨base ++ "Fields", base ++ "Append", base ++ "Remove"⟩

/-- The handles inside a component that shows only one list. -/
def own : Handles := ⟨"fields", "append", "remove"⟩

/-- What the handles of a field are named after. -/
def base (name : String) : String :=
  if Source.isIdentifier name then name
  else
    match Identifier.valueName name with
    | .ok value => value
    | .error _ => "items"

/-- The handles of the lists among some fields, by field name. -/
def ofFields (taken : List String) : List Field → List (String × Handles)
  | [] => []
  | f :: rest =>
    if f.kind? = some .array then
      let name := freeName taken (base f.name)
      (f.name, ofBase name) :: ofFields (name :: taken) rest
    else ofFields taken rest

end Handles

/-- The handles of the lists at the top of a form, by field name and in the order of the fields. -/
def arrayHandles (fields : List Field) : List (String × Handles) := Handles.ofFields [] fields

end WebForm.Component
