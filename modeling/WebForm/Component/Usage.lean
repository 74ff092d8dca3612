import WebForm.Field.Basic
/-!
# What a component uses

Which parts the generated component of a form needs, told from the kinds of the fields that it
shows. The file imports only what is used, and the component takes only those handles from the
form that its fields need.
-/

set_option autoImplicit false

namespace WebForm.Component

/-- The parts that are used. -/
structure Usage where
  input : Bool := false
  textArea : Bool := false
  checkbox : Bool := false
  radio : Bool := false
  select : Bool := false
  /-- A list at any depth. -/
  fieldArray : Bool := false
  /-- A list inside the items of a list, which has a component of its own. -/
  nestedArray : Bool := false
deriving DecidableEq, Repr

namespace Usage

/-- What either of two uses. -/
def union (a b : Usage) : Usage where
  input := a.input || b.input
  textArea := a.textArea || b.textArea
  checkbox := a.checkbox || b.checkbox
  radio := a.radio || b.radio
  select := a.select || b.select
  fieldArray := a.fieldArray || b.fieldArray
  nestedArray := a.nestedArray || b.nestedArray

@[simp] theorem union_empty (u : Usage) : union u {} = u := by
  simp [union]

@[simp] theorem empty_union (u : Usage) : union {} u = u := by
  simp [union]

/-- What a control of a single value uses. -/
def ofControl : Control → Usage
  | .input _ => { input := true }
  | .textArea => { textArea := true }
  | .checkbox => { checkbox := true }
  | .select => { select := true }
  | .radioGroup => { radio := true }
  | .fieldArray => {}

mutual

/-- What a field uses, `nested` telling whether it is inside the items of a list. -/
def ofField (nested : Bool) : Field → Usage
  | ⟨spec, children⟩ =>
    match spec.type.kind? with
    | none => {}
    | some .array =>
      union { fieldArray := true, nestedArray := nested }
        (if children.isEmpty then ofControl (Field.mk spec children).itemKind.control
          else ofFields true children)
    | some kind => ofControl kind.control
termination_by structural f => f

/-- What siblings use. -/
def ofFields (nested : Bool) : List Field → Usage
  | [] => {}
  | f :: rest => union (ofField nested f) (ofFields nested rest)
termination_by structural fs => fs

end

/-- Whether some control is driven by a controller. -/
def controller (u : Usage) : Bool := u.checkbox || u.radio

/-- Whether the main component needs the control of the form. -/
def control (u : Usage) : Bool := u.checkbox || u.radio || u.select || u.fieldArray

/-- Whether the main component needs to register inputs. -/
def register (u : Usage) : Bool := u.input || u.textArea || u.nestedArray

end Usage

end WebForm.Component
