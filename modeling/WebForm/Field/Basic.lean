import WebForm.Field.Kind
import WebForm.Text.Blank
import WebForm.Text.LowerCase
/-!
# Fields

One field of a form: its `FieldSpec`, which holds all that a document says about the field itself,
and the fields of one item if it is a list of objects. A form is a forest of such fields.

The accessors of this module decide which parts of a spec are in effect. A bound of zero on a
length imposes nothing, and neither does an empty pattern; an item type counts only if it is a
primitive kind, and text stands in for any other.
-/

set_option autoImplicit false

namespace WebForm

/-- The bounds that a document puts on a field. Those that do not apply to its kind are kept but
have no effect. -/
structure Constraints where
  minLength : Option UInt64 := none
  maxLength : Option UInt64 := none
  min : Option Double := none
  max : Option Double := none
  pattern : Option String := none
deriving DecidableEq, Repr

/-- What a document says about one field, apart from the fields inside it. -/
structure FieldSpec where
  name : String
  type : FieldType
  label : String
  required : Bool := false
  constraints : Option Constraints := none
  /-- The accepted values of a choice. -/
  options : List String := []
  /-- The kind of the items of a list without fields of its own. -/
  itemType : Option FieldType := none
  placeholder : Option String := none
  helperText : Option String := none
deriving DecidableEq, Repr

/-- A field, and the fields of one of its items. -/
structure Field where
  spec : FieldSpec
  children : List Field
deriving Repr

namespace Constraints

/-- The least length in effect. -/
def minLengthInEffect (c : Constraints) : Option UInt64 := c.minLength.filter (0 < ·)

/-- The greatest length in effect. -/
def maxLengthInEffect (c : Constraints) : Option UInt64 := c.maxLength.filter (0 < ·)

/-- The pattern in effect. -/
def patternInEffect (c : Constraints) : Option String := c.pattern.filter (· ≠ "")

end Constraints

namespace Field

/-- A field without children. -/
def leaf (spec : FieldSpec) : Field := ⟨spec, []⟩

/-- The name of the field. -/
def name (f : Field) : String := f.spec.name

/-- The label of the field. -/
def label (f : Field) : String := f.spec.label

/-- Whether a value is required. -/
def required (f : Field) : Bool := f.spec.required

/-- The options of the field. -/
def options (f : Field) : List String := f.spec.options

/-- The known kind of the field. -/
def kind? (f : Field) : Option FieldKind := f.spec.type.kind?

/-- The constraints, or none at all. -/
def constraints (f : Field) : Constraints := f.spec.constraints.getD {}

/-- A list whose items are objects. -/
def isObjectArray (f : Field) : Bool := f.kind? == some .array && !f.children.isEmpty

/-- The kind of the items of a list of primitives. -/
def itemKind (f : Field) : FieldKind :=
  ((f.spec.itemType.bind FieldType.kind?).filter FieldKind.isPrimitive).getD .text

/-- The placeholder: as given, or made of the label. -/
def placeholderText (f : Field) : String :=
  f.spec.placeholder.getD ("Enter " ++ Text.lower f.label)

@[simp] theorem name_mk (spec : FieldSpec) (children : List Field) :
    (Field.mk spec children).name = spec.name := rfl

@[simp] theorem kind?_mk (spec : FieldSpec) (children : List Field) :
    (Field.mk spec children).kind? = spec.type.kind? := rfl

/-- The kind of an item is always a primitive one. -/
theorem isPrimitive_itemKind (f : Field) : f.itemKind.isPrimitive = true := by
  unfold itemKind
  cases h : (f.spec.itemType.bind FieldType.kind?).filter FieldKind.isPrimitive with
  | none => rfl
  | some k => exact (Option.filter_eq_some_iff.mp h).2

/-! ## Paths -/

/-- The path of a name inside a parent, where the empty path is that of the form itself. -/
def joinPath (parent name : String) : String :=
  if parent.isEmpty then name else parent ++ "." ++ name

@[simp] theorem joinPath_empty (name : String) : joinPath "" name = name := rfl

/-! ## Walks over a forest -/

mutual

/-- The number of fields in a tree. -/
def count : Field → Nat
  | ⟨_, children⟩ => 1 + countAll children
termination_by structural f => f

/-- The number of fields in a forest. -/
def countAll : List Field → Nat
  | [] => 0
  | f :: rest => count f + countAll rest
termination_by structural fs => fs

end

mutual

/-- How deep lists of objects nest in a tree. -/
def depth : Field → Nat
  | ⟨spec, children⟩ =>
    if spec.type.kind? == some .array && !children.isEmpty then 1 + depthAll children else 0
termination_by structural f => f

/-- How deep lists of objects nest in a forest. -/
def depthAll : List Field → Nat
  | [] => 0
  | f :: rest => max (depth f) (depthAll rest)
termination_by structural fs => fs

end

mutual

/-- The tree in preorder, each field with its path. -/
def walk (parent : String) : Field → List (String × Field)
  | ⟨spec, children⟩ =>
    let path := joinPath parent spec.name
    (path, ⟨spec, children⟩) :: walkAll path children
termination_by structural f => f

/-- The forest in preorder, each field with its path. -/
def walkAll (parent : String) : List Field → List (String × Field)
  | [] => []
  | f :: rest => walk parent f ++ walkAll parent rest
termination_by structural fs => fs

end

/-- Two forests side by side have the fields of both. -/
theorem countAll_append (a b : List Field) : countAll (a ++ b) = countAll a + countAll b := by
  induction a with
  | nil => simp [countAll]
  | cons f rest ih => simp [countAll, ih, Nat.add_assoc]

/-- A forest is walked tree by tree. -/
theorem walkAll_eq_flatMap (parent : String) (fs : List Field) :
    walkAll parent fs = fs.flatMap (walk parent) := by
  induction fs with
  | nil => rfl
  | cons f rest ih => simp [walkAll, ih]

mutual

/-- A walk meets every field of a tree once. -/
theorem length_walk (parent : String) (f : Field) : (walk parent f).length = count f := by
  match f with
  | ⟨spec, children⟩ =>
    simp [walk, count, length_walkAll (joinPath parent spec.name) children, Nat.add_comm]
termination_by structural f

/-- A walk meets every field of a forest once. -/
theorem length_walkAll (parent : String) (fs : List Field) :
    (walkAll parent fs).length = countAll fs := by
  match fs with
  | [] => rfl
  | f :: rest => simp [walkAll, countAll, length_walk parent f, length_walkAll parent rest]
termination_by structural fs

end

end Field

end WebForm
