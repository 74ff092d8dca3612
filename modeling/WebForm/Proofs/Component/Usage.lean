import WebForm.Component.Usage
import WebForm.Proofs.Component.InnerLists
/-!
# What fields use

What the fields of a form use is put together field by field. A part that is used by either of two
is used by both together, so that something uses a part exactly if one of its fields does. Lists are
seen at the top already: whether there is one at any depth, and whether there is one inside the
items of another, does not depend on what is further inside.
-/

set_option autoImplicit false

namespace WebForm.Component.Usage

section
variable {nested : Bool} {f : Field}

theorem ofField_of_unrecognized {raw : String} (h : f.spec.type = .unrecognized raw) :
    ofField nested f = {} := by
  obtain ⟨spec, children⟩ := f
  have hkind : spec.type.kind? = none := by
    rw [show spec.type = .unrecognized raw from h]
    rfl
  rw [ofField, hkind]

theorem ofField_of_known {kind : FieldKind} (h : f.spec.type = .known kind)
    (hkind : kind ≠ .array) : ofField nested f = ofControl kind.control := by
  obtain ⟨spec, children⟩ := f
  have hsome : spec.type.kind? = some kind := by
    rw [show spec.type = .known kind from h]
    rfl
  rw [ofField, hsome]
  cases kind <;> first | rfl | exact absurd rfl hkind

/-- A list uses what its items use. -/
theorem ofField_of_array (h : f.kind? = some .array) :
    ofField nested f =
      union { fieldArray := true, nestedArray := nested }
        (if f.children.isEmpty then ofControl f.itemKind.control else ofFields true f.children) := by
  obtain ⟨spec, children⟩ := f
  rw [ofField, show spec.type.kind? = some .array from h]

end

/-! ## Parts -/

/-- Something that two use together exactly if one of them does. -/
structure IsPart (part : Usage → Bool) : Prop where
  empty : part {} = false
  union (u v : Usage) : part (u.union v) = (part u || part v)

/-- Siblings use a part if one of them does. -/
theorem IsPart.ofFields_iff {part : Usage → Bool} (h : IsPart part) (nested : Bool)
    (fs : List Field) :
    part (ofFields nested fs) = true ↔ ∃ f ∈ fs, part (ofField nested f) = true := by
  induction fs with
  | nil => simp [ofFields, h.empty]
  | cons f rest ih => simp [ofFields, h.union, ih]

theorem isPart_control : IsPart control := by
  refine ⟨rfl, fun u v => ?_⟩
  simp only [control, union]
  grind

theorem isPart_register : IsPart register := by
  refine ⟨rfl, fun u v => ?_⟩
  simp only [register, union]
  grind

theorem isPart_fieldArray : IsPart fieldArray := ⟨rfl, fun _ _ => rfl⟩

theorem isPart_nestedArray : IsPart nestedArray := ⟨rfl, fun _ _ => rfl⟩

/-! ## Lists -/

theorem fieldArray_ofControl (control : Control) :
    (ofControl control).fieldArray = false ∧ (ofControl control).nestedArray = false := by
  cases control <;> exact ⟨rfl, rfl⟩

theorem fieldArray_ofField_iff {nested : Bool} {f : Field} :
    (ofField nested f).fieldArray = true ↔ f.kind? = some .array := by
  cases htype : f.spec.type with
  | unrecognized raw =>
    rw [ofField_of_unrecognized htype]
    exact iff_of_false (by decide) (Field.kind?_ne_array_of_unrecognized htype)
  | known kind =>
    by_cases hkind : kind = .array
    · have harray := Field.kind?_eq_some_iff.mpr (hkind ▸ htype)
      rw [ofField_of_array harray, isPart_fieldArray.union]
      exact iff_of_true rfl harray
    · rw [ofField_of_known htype hkind, (fieldArray_ofControl kind.control).1]
      exact iff_of_false (by decide) (Field.kind?_ne_array_of_known htype hkind)

/-- A list inside an item is an inner list, whatever is in it. -/
theorem nestedArray_ofField_true_iff {f : Field} :
    (ofField true f).nestedArray = true ↔ Field.innerLists f ≠ [] := by
  cases htype : f.spec.type with
  | unrecognized raw =>
    rw [ofField_of_unrecognized htype,
      Field.innerLists_of_ne_array (Field.kind?_ne_array_of_unrecognized htype)]
    simp
  | known kind =>
    by_cases hkind : kind = .array
    · have harray := Field.kind?_eq_some_iff.mpr (hkind ▸ htype)
      rw [ofField_of_array harray, isPart_nestedArray.union, Field.innerLists_of_array harray]
      simp
    · rw [ofField_of_known htype hkind, (fieldArray_ofControl kind.control).2,
        Field.innerLists_of_ne_array (Field.kind?_ne_array_of_known htype hkind)]
      simp

theorem nestedArray_ofField_false_iff {f : Field} :
    (ofField false f).nestedArray = true ↔ Field.innerListsBelow f ≠ [] := by
  rw [Field.innerListsBelow]
  by_cases harray : f.kind? = some .array
  · rw [ofField_of_array harray, isPart_nestedArray.union, if_pos harray, Bool.false_or,
      Field.innerListsIn_eq_flatMap]
    by_cases hchildren : f.children.isEmpty = true
    · rw [if_pos hchildren, (fieldArray_ofControl _).2, List.isEmpty_iff.mp hchildren]
      simp
    · rw [if_neg hchildren, isPart_nestedArray.ofFields_iff, Ne, List.flatMap_eq_nil_iff]
      simp [nestedArray_ofField_true_iff]
  · rw [if_neg harray]
    refine iff_of_false ?_ (fun h => h rfl)
    cases htype : f.spec.type with
    | unrecognized raw =>
      rw [ofField_of_unrecognized htype]
      decide
    | known kind =>
      have hkind : kind ≠ .array := by
        rintro rfl
        exact harray (Field.kind?_eq_some_iff.mpr htype)
      rw [ofField_of_known htype hkind, (fieldArray_ofControl kind.control).2]
      decide

/-- There is a list among some fields if and only if one of them is a list. -/
theorem fieldArray_ofFields_iff (nested : Bool) (fs : List Field) :
    (ofFields nested fs).fieldArray = true ↔ Field.lists fs ≠ [] := by
  rw [isPart_fieldArray.ofFields_iff, Ne, Field.lists, List.filter_eq_nil_iff]
  simp [fieldArray_ofField_iff]

/-- The handles that a component binds are those of the lists among its fields. -/
theorem fieldArray_iff_arrayHandles (fields : List Field) :
    (ofFields false fields).fieldArray = true ↔ arrayHandles fields ≠ [] := by
  have hnames := congrArg List.length (Handles.map_fst_ofFields [] fields)
  rw [List.length_map, List.length_map, ← arrayHandles] at hnames
  rw [fieldArray_ofFields_iff, ← List.length_pos_iff, ← List.length_pos_iff, hnames]

/-- There is a list inside a list among some fields if and only if there is an inner list. -/
theorem nestedArray_ofFields_iff (form : Form) :
    (ofFields false form.fields).nestedArray = true ↔ form.innerLists ≠ [] := by
  rw [isPart_nestedArray.ofFields_iff, Ne, Form.innerLists, List.flatMap_eq_nil_iff]
  simp [nestedArray_ofField_false_iff]

/-- Each list inside a list has an inner component. -/
theorem nestedArray_iff_innerComponents {ids : Identifiers}
    (hword : Identifier.IsWord ids.componentName.toList) (form : Form) :
    (ofFields false form.fields).nestedArray = true ↔ innerComponents ids form ≠ [] := by
  obtain ⟨-, -, hlists, -⟩ := rendering_ofFields hword form
  rw [nestedArray_ofFields_iff, ← List.length_pos_iff, ← List.length_pos_iff, hlists.length_eq]

/-- Where there is a list inside a list, there is a list. -/
theorem fieldArray_of_nestedArray {fields : List Field}
    (h : (ofFields false fields).nestedArray = true) :
    (ofFields false fields).fieldArray = true := by
  obtain ⟨f, hf, hnested⟩ := (isPart_nestedArray.ofFields_iff false fields).mp h
  refine (isPart_fieldArray.ofFields_iff false fields).mpr ⟨f, hf, fieldArray_ofField_iff.mpr ?_⟩
  by_contra harray
  exact nestedArray_ofField_false_iff.mp hnested (if_neg harray)

end WebForm.Component.Usage
