import WebForm.Proofs.Component.Comments
/-!
# Comments about unknown fields

A field of an unknown kind is a comment in each artifact: a line that starts with `//` in the schema
and in the types, an element in braces in the component file.
-/

set_option autoImplicit false

namespace WebForm

open Source Script

/-! ## Comments in the schema and in the types -/

/-- The comments among some lines. -/
def lineComments (ls : List Line) : List String := (ls.map Line.text).filter isLineComment

namespace Zod.Member

mutual

theorem lineComments_lines (m : Member) (depth : Nat) :
    lineComments (m.lines depth) = m.notes.map Note.comment := by
  match m with
  | .unsupported type path => exact List.filter_cons_of_pos (Note.isLineComment_comment ⟨type, path⟩)
  | .value name expr =>
    have hvalue : isLineComment (propertyKey name ++ ": " ++ expr.text ++ ",") = false := by
      simp only [String.append_assoc]
      exact (not_comment_propertyKey name _).1
    simp [lineComments, lines, notes, hvalue]
  | .objects name members minItems =>
    have hopen : isLineComment (propertyKey name ++ ": z.array(z.object(\x7b") = false :=
      (not_comment_propertyKey name _).1
    have hclose : isLineComment ("\x7d))" ++ listSuffix minItems ++ ",") = false := by
      simp only [String.append_assoc]
      exact isLineComment_append (by decide) _
    have hinside := lineComments_allLines members (depth + 1)
    rw [lineComments] at hinside
    simp [lineComments, lines, notes, hopen, hclose, hinside]

/-- The comments in the lines of members are their notes. -/
theorem lineComments_allLines (ms : List Member) (depth : Nat) :
    lineComments (allLines depth ms) = (allNotes ms).map Note.comment := by
  match ms with
  | [] => rfl
  | m :: rest =>
    rw [allLines, allNotes, List.map_append, ← lineComments_lines m depth,
      ← lineComments_allLines rest depth, lineComments, List.map_append, List.filter_append]
    rfl

end

theorem isPass_notes :
    Field.IsPass (· ++ ·) [] (fun p => p.note?.toList) (fun path f => (ofField path f).notes)
      fun parent fs => allNotes (ofFields parent fs) := by
  refine ⟨fun p => ?_, fun _ => rfl, fun _ _ _ => rfl⟩
  obtain ⟨parent, elders, ⟨spec, children⟩, juniors⟩ := p
  cases htype : spec.type with
  | unrecognized raw =>
    simp [ofField, Field.Place.note?, htype, FieldType.kind?, notes]
  | known kind =>
    by_cases hkind : kind = .array
    · by_cases hnone : children = []
      · simp [ofField, Field.Place.note?, Field.isObjectArray, htype, FieldType.kind?, hkind, hnone,
          notes, ofFields, allNotes]
      · simp [ofField, Field.Place.note?, Field.isObjectArray, htype, FieldType.kind?, hkind, hnone,
          notes]
    · simp [ofField, Field.Place.note?, Field.isObjectArray, htype, FieldType.kind?, hkind, notes]

end Zod.Member

namespace Interface.Member

mutual

theorem lineComments_lines (m : Member) (depth : Nat) :
    lineComments (m.lines depth) = m.notes.map Note.comment := by
  match m with
  | .unsupported type path => exact List.filter_cons_of_pos (Note.isLineComment_comment ⟨type, path⟩)
  | .value name required type =>
    have hvalue : isLineComment (head name required ++ type.text ++ ";") = false := by
      simp only [head, String.append_assoc]
      exact (not_comment_propertyKey name _).1
    simp [lineComments, lines, notes, hvalue]
  | .objects name required members =>
    have hopen : isLineComment (head name required ++ "Array<\x7b") = false := by
      simp only [head, String.append_assoc]
      exact (not_comment_propertyKey name _).1
    have hclose : isLineComment "\x7d>;" = false := by decide
    have hinside := lineComments_allLines members (depth + 1)
    rw [lineComments] at hinside
    simp [lineComments, lines, notes, hopen, hclose, hinside]

/-- The comments in the lines of members are their notes. -/
theorem lineComments_allLines (ms : List Member) (depth : Nat) :
    lineComments (allLines depth ms) = (allNotes ms).map Note.comment := by
  match ms with
  | [] => rfl
  | m :: rest =>
    rw [allLines, allNotes, List.map_append, ← lineComments_lines m depth,
      ← lineComments_allLines rest depth, lineComments, List.map_append, List.filter_append]
    rfl

end

theorem isPass_notes :
    Field.IsPass (· ++ ·) [] (fun p => p.note?.toList) (fun path f => (ofField path f).notes)
      fun parent fs => allNotes (ofFields parent fs) := by
  refine ⟨fun p => ?_, fun _ => rfl, fun _ _ _ => rfl⟩
  obtain ⟨parent, elders, ⟨spec, children⟩, juniors⟩ := p
  cases htype : spec.type with
  | unrecognized raw =>
    simp [ofField, Field.Place.note?, htype, FieldType.kind?, notes]
  | known kind =>
    by_cases hkind : kind = .array
    · by_cases hnone : children = []
      · simp [ofField, Field.Place.note?, Field.isObjectArray, htype, FieldType.kind?, hkind, hnone,
          notes, ofFields, allNotes]
      · simp [ofField, Field.Place.note?, Field.isObjectArray, htype, FieldType.kind?, hkind, hnone,
          notes]
    · simp [ofField, Field.Place.note?, Field.isObjectArray, htype, FieldType.kind?, hkind, notes]

end Interface.Member

/-- The comments of the schema are those of the unknown fields. -/
theorem lineComments_schemaLines (ids : Identifiers) (form : Form) :
    lineComments (Zod.schemaLines ids form.fields) =
      (form.places.filterMap Field.Place.note?).map Note.comment := by
  have hmembers := Zod.Member.lineComments_allLines (Zod.Member.ofFields "" form.fields) 1
  have hnotes : Zod.Member.allNotes (Zod.Member.ofFields "" form.fields) =
      form.places.filterMap Field.Place.note? := Zod.Member.isPass_notes.all_eq_notes form.fields
  have hschema : isLineComment ("export const " ++ ids.schemaName ++ " = z.object(\x7b") = false := by
    simp only [String.append_assoc]
    exact isLineComment_append (by decide) _
  have htype : isLineComment ("export type " ++ ids.formDataType ++ " = z.infer<typeof " ++
      ids.schemaName ++ ">;") = false := by
    simp only [String.append_assoc]
    exact isLineComment_append (by decide) _
  have himport : isLineComment "import \x7b z \x7d from 'zod';" = false := by decide
  have hblank : isLineComment Line.blank.text = false := by decide
  have hend : isLineComment "\x7d);" = false := by decide
  rw [lineComments] at hmembers
  rw [← hnotes, ← hmembers]
  simp [lineComments, Zod.schemaLines, hschema, htype, himport, hblank, hend]

/-- The comments of the types are those of the unknown fields. -/
theorem lineComments_typesLines (ids : Identifiers) (form : Form) :
    lineComments (Interface.fileLines ids form.fields) =
      (form.places.filterMap Field.Place.note?).map Note.comment := by
  have hmembers := Interface.Member.lineComments_allLines (Interface.Member.ofFields "" form.fields) 1
  have hnotes : Interface.Member.allNotes (Interface.Member.ofFields "" form.fields) =
      form.places.filterMap Field.Place.note? :=
    Interface.Member.isPass_notes.all_eq_notes form.fields
  have hopen : isLineComment ("export interface " ++ ids.formDataType ++ " \x7b") = false := by
    simp only [String.append_assoc]
    exact isLineComment_append (by decide) _
  have hend : isLineComment "\x7d" = false := by decide
  rw [lineComments] at hmembers
  rw [← hnotes, ← hmembers]
  simp [lineComments, Interface.fileLines, hopen, hend]

namespace Form

/-- **An unknown field is a comment in each artifact, as long as nothing in it ends a line.** In the
schema and in the types the comments are those of the unknown fields that are reached in the form,
one for each and in order. In the component file the comments between elements are those of the same
fields, one for each. A comment on a line goes on to the end of its line, in whatever style this is
written, exactly when nothing in the type and the path of the field ends the line before. A comment
between elements goes on to the brace that closes its element, whatever the type and the path are. -/
theorem comments_of_unknown (style : Style) (ids : Identifiers) (form : Form) :
    lineComments (ArtifactKind.schema.lines ids form) =
        (form.places.filterMap Field.Place.note?).map Note.comment ∧
      lineComments (ArtifactKind.types.lines ids form) =
        (form.places.filterMap Field.Place.note?).map Note.comment ∧
      (Component.elementComments ((ArtifactKind.component.lines ids form).map Line.text)).Perm
        ((form.unknown Component.displayPath).map Note.element) ∧
      (form.unknown Component.displayPath).map Note.type =
        (form.places.filterMap Field.Place.note?).map Note.type ∧
      (∀ (n : Note) (depth : Nat),
        behindLineComment (style.line ⟨depth, n.comment⟩).toList =
          style.lineEnding.text.toList ↔ n.IsOneLine) ∧
      ∀ n : Note, behindElementComment (n.element.toList.drop 3) = ['\x7d'] := by
  refine ⟨lineComments_schemaLines ids form, lineComments_typesLines ids form,
    Component.perm_elementComments_fileLines ids form, ?_, ?_, Note.behindElementComment_element⟩
  · rw [← unknown_joinPath, unknown, unknown, List.map_flatMap, List.map_flatMap]
    exact List.flatMap_congr fun f _ => Field.map_type_unknownIn _ _ f _ _
  · exact fun n depth => n.behindLineComment_comment style depth

/-- A form with one field, of a kind that is a text with a line break. -/
def brokenKindForm : Form :=
  ⟨"Survey", [.leaf ⟨"when", .unrecognized "date\nexport const leaked = 1; //", "When", false, none,
    [], none, none, none⟩]⟩

/-- The comment of this field ends inside its kind, and the rest of the kind is code. -/
theorem brokenKindForm_leaves_comment :
    lineComments (ArtifactKind.schema.lines ⟨"Survey", "survey"⟩ brokenKindForm) =
        [Note.comment ⟨"date\nexport const leaked = 1; //", "when"⟩] ∧
      behindLineComment (Style.line ⟨.spaces2, .lf⟩
          ⟨1, Note.comment ⟨"date\nexport const leaked = 1; //", "when"⟩⟩).toList =
        "\nexport const leaked = 1; //\" for field \"when\"\n".toList := by
  constructor
  · exact lineComments_schemaLines _ brokenKindForm
  · decide +kernel

end Form

end WebForm
