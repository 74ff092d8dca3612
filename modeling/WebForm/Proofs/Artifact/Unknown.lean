import WebForm.Proofs.Artifact.Notes
import WebForm.Proofs.Component.InnerLists
/-!
# Unknown fields

The notes of the unknown fields that are reached in a form, in preorder. Artifacts disagree on how a
path is put together where a name is empty, so that the notes are collected with any way to do it;
which fields they are about does not depend on it.
-/

set_option autoImplicit false

namespace WebForm

namespace Field

mutual

/-- The notes of the unknown fields that are reached in a field at a path, where `join` says which
path a field has inside of another one. -/
def unknownIn (join : String → String → String) (path : String) : Field → List Note
  | ⟨spec, children⟩ =>
    match spec.type with
    | .unrecognized raw => [⟨raw, path⟩]
    | .known kind => if kind = .array then unknownAmong join path children else []
termination_by structural f => f

/-- The notes of the unknown fields that are reached among siblings. -/
def unknownAmong (join : String → String → String) (parent : String) : List Field → List Note
  | [] => []
  | f :: rest => unknownIn join (join parent f.name) f ++ unknownAmong join parent rest
termination_by structural fs => fs

end

section
variable {join : String → String → String} {path : String} {f : Field}

theorem unknownAmong_eq_flatMap (join : String → String → String) (parent : String)
    (fs : List Field) :
    unknownAmong join parent fs = fs.flatMap fun f => unknownIn join (join parent f.name) f := by
  induction fs with
  | nil => rfl
  | cons f rest ih => rw [unknownAmong, ih, List.flatMap_cons]

theorem unknownIn_of_unrecognized {raw : String} (h : f.spec.type = .unrecognized raw) :
    unknownIn join path f = [⟨raw, path⟩] := by
  obtain ⟨spec, children⟩ := f
  rw [unknownIn, h]

theorem unknownIn_of_array (h : f.kind? = some .array) :
    unknownIn join path f = f.children.flatMap fun c => unknownIn join (join path c.name) c := by
  obtain ⟨spec, children⟩ := f
  rw [unknownIn, kind?_eq_some_iff.mp h, ← unknownAmong_eq_flatMap]
  exact if_pos rfl

theorem unknownIn_of_known {kind : FieldKind} (h : f.spec.type = .known kind)
    (hkind : kind ≠ .array) : unknownIn join path f = [] := by
  obtain ⟨spec, children⟩ := f
  rw [unknownIn, h]
  exact if_neg hkind

end

/-- Which paths they have does not change which fields are unknown. -/
theorem map_type_unknownIn (join join' : String → String → String) (f : Field) :
    ∀ path path', (unknownIn join path f).map Note.type = (unknownIn join' path' f).map Note.type := by
  induction f using Field.induction with
  | mk spec children ih =>
    intro path path'
    cases htype : spec.type with
    | unrecognized raw =>
      rw [unknownIn_of_unrecognized htype, unknownIn_of_unrecognized htype]
      rfl
    | known kind =>
      by_cases hkind : kind = .array
      · have harray : (Field.mk spec children).kind? = some .array :=
          kind?_eq_some_iff.mpr (hkind ▸ htype)
        rw [unknownIn_of_array harray, unknownIn_of_array harray, List.map_flatMap, List.map_flatMap]
        exact List.flatMap_congr fun c hc => ih c hc _ _
      · rw [unknownIn_of_known htype hkind, unknownIn_of_known htype hkind]

/-- The note of a place, if there is an unknown field in it. -/
def Place.note? (p : Place) : Option Note :=
  match p.field.spec.type with
  | .unrecognized raw => some ⟨raw, p.path⟩
  | .known _ => none

theorem isPass_unknown :
    IsPass (· ++ ·) [] (fun p => p.note?.toList) (unknownIn joinPath) (unknownAmong joinPath) := by
  refine ⟨fun p => ?_, fun _ => rfl, fun _ _ _ => rfl⟩
  rw [Place.note?]
  cases htype : p.field.spec.type with
  | unrecognized raw =>
    rw [unknownIn_of_unrecognized htype, if_neg (kind?_ne_array_of_unrecognized htype)]
    rfl
  | known kind =>
    by_cases hkind : kind = .array
    · have harray : p.field.kind? = some .array := kind?_eq_some_iff.mpr (hkind ▸ htype)
      rw [unknownIn_of_array harray, if_pos harray, unknownAmong_eq_flatMap]
      rfl
    · rw [unknownIn_of_known htype hkind, if_neg (kind?_ne_array_of_known htype hkind)]
      rfl

/-- A pass that collects the notes of unknown fields collects those of the places, in order. -/
theorem IsPass.all_eq_notes {one : String → Field → List Note} {all : String → List Field → List Note}
    (h : IsPass (· ++ ·) [] (fun p => p.note?.toList) one all) (fs : List Field) :
    all "" fs = (places "" [] fs).filterMap Place.note? := by
  rw [h.all_eq_foldr "" [] fs]
  generalize places "" [] fs = ps
  induction ps with
  | nil => rfl
  | cons p rest ih =>
    rw [List.map_cons, List.foldr_cons, ih, List.filterMap_cons]
    cases p.note? <;> rfl

end Field

namespace Form

/-- The notes of the unknown fields that are reached in a form. -/
def unknown (join : String → String → String) (form : Form) : List Note :=
  form.fields.flatMap fun f => Field.unknownIn join f.name f

/-- With dotted paths, these are the notes of the places of the form. -/
theorem unknown_joinPath (form : Form) :
    form.unknown Field.joinPath = form.places.filterMap Field.Place.note? := by
  have hpass := Field.isPass_unknown.all_eq_notes form.fields
  rwa [Field.unknownAmong_eq_flatMap] at hpass

end Form

end WebForm
