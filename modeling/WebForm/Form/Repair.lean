import WebForm.Form.Structure
/-!
# Repairs

What permissive loading makes of the things that it puts up with. A blank label becomes the name;
children of a field that is no list are dropped; and of a list's item type only one that is in
effect stays. A form without such things is left as it is.
-/

set_option autoImplicit false

namespace WebForm

namespace FieldSpec

/-- The label that is shown: the given one, or the name where that is blank. -/
def repairedLabel (s : FieldSpec) : String := if Text.isBlank s.label then s.name else s.label

end FieldSpec

namespace Field

/-- The item type that is in effect: none beside children, and none that only stands for text. -/
def repairedItemType (f : Field) : Option FieldType :=
  if !f.children.isEmpty then none
  else if f.itemKind = .text && f.spec.itemType ≠ some (.known .text) then none
  else f.spec.itemType

mutual

/-- Repairs a field and all fields in it. -/
def repair : Field → Field
  | ⟨spec, children⟩ =>
    if spec.type.kind? = some .array then
      ⟨{ spec with
          label := spec.repairedLabel
          itemType := repairedItemType ⟨spec, children⟩ },
        repairAll children⟩
    else ⟨{ spec with label := spec.repairedLabel }, []⟩
termination_by structural f => f

/-- Repairs siblings. -/
def repairAll : List Field → List Field
  | [] => []
  | f :: rest => repair f :: repairAll rest
termination_by structural fs => fs

end

/-- Siblings are repaired one by one. -/
theorem repairAll_eq_map (fs : List Field) : repairAll fs = fs.map repair := by
  induction fs with
  | nil => rfl
  | cons f rest ih => simp [repairAll, ih]

/-- A repaired field keeps its name. -/
@[simp] theorem name_repair (f : Field) : (repair f).name = f.name := by
  obtain ⟨spec, children⟩ := f
  unfold repair
  split <;> rfl

/-- A repaired field keeps its kind. -/
@[simp] theorem kind?_repair (f : Field) : (repair f).kind? = f.kind? := by
  obtain ⟨spec, children⟩ := f
  unfold repair
  split <;> rfl

end Field

namespace Form

/-- Repairs every field of the form. -/
def repair (form : Form) : Form := { form with fields := Field.repairAll form.fields }

end Form

end WebForm
