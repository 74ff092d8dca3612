import WebForm.Artifact
import WebForm.Proofs.Component.Writing
/-!
# Layout of artifacts

A style says what one step of indentation is and how a line ends, and nothing else depends on it:
every artifact has its lines before a style is known, and a style only lays them out. This holds of
artifacts that are written straight to text as well, by writers that know the style from the start;
the schema and the types are written by one writer that goes through the fields, and the component
file by several, whose texts are put together at the end.
-/

set_option autoImplicit false

namespace WebForm

open Source

/-! ## Members

The schema and the types are written in the same way, one member for each field, and differ in what
a member says. -/

/-- What the lines of members say: those around the members of objects, and that of any other
field. -/
structure MemberText where
  opening : Field → String
  closing : Field → String
  value : FieldKind → Field → String

namespace MemberText

mutual

/-- Writes the member of a field at a path. -/
def writeField (text : MemberText) (path : String) (depth : Nat) : Field → Writer → Writer
  | ⟨spec, children⟩ => fun w =>
    let f : Field := ⟨spec, children⟩
    match spec.type with
    | .unrecognized raw => w.line depth (unsupportedComment raw path)
    | .known kind =>
      if f.isObjectArray then
        (text.writeFields path (depth + 1) children (w.line depth (text.opening f))).line depth
          (text.closing f)
      else w.line depth (text.value kind f)
termination_by structural f => f

/-- Writes the members of siblings. -/
def writeFields (text : MemberText) (parent : String) (depth : Nat) :
    List Field → Writer → Writer
  | [] => id
  | f :: rest => fun w =>
    text.writeFields parent depth rest
      (text.writeField (Field.joinPath parent f.name) depth f w)
termination_by structural fs => fs

end

/-- The lines of fields, as a function of their paths and depths, say what a text says. -/
structure Describes (text : MemberText) (lines : String → Nat → Field → List Line) : Prop where
  note : ∀ {path depth f raw}, f.spec.type = .unrecognized raw →
    lines path depth f = [⟨depth, unsupportedComment raw path⟩]
  objects : ∀ {path depth f kind}, f.spec.type = .known kind → f.isObjectArray = true →
    lines path depth f = ⟨depth, text.opening f⟩ ::
      f.children.flatMap (fun c => lines (Field.joinPath path c.name) (depth + 1) c) ++
        [⟨depth, text.closing f⟩]
  value : ∀ {path depth f kind}, f.spec.type = .known kind → f.isObjectArray = false →
    lines path depth f = [⟨depth, text.value kind f⟩]

namespace Describes

variable {text : MemberText} {lines : String → Nat → Field → List Line}

/-- Siblings are written one after the other, if each of them is written as its lines. -/
theorem writeFields_of_forall {parent : String} {depth : Nat} {fs : List Field}
    (h : ∀ f ∈ fs, ∀ w : Writer, text.writeField (Field.joinPath parent f.name) depth f w =
      w.lines (lines (Field.joinPath parent f.name) depth f)) (w : Writer) :
    text.writeFields parent depth fs w =
      w.lines (fs.flatMap fun f => lines (Field.joinPath parent f.name) depth f) := by
  induction fs generalizing w with
  | nil => rfl
  | cons f rest ih =>
    rw [List.forall_mem_cons] at h
    show text.writeFields parent depth rest
      (text.writeField (Field.joinPath parent f.name) depth f w) = _
    rw [h.1, ih h.2, List.flatMap_cons, Writer.lines_append]

/-- A field is written as its lines. -/
theorem writeField_eq (hlines : text.Describes lines) (f : Field) : ∀ path depth (w : Writer),
    text.writeField path depth f w = w.lines (lines path depth f) := by
  -- fields inside are written at longer paths, deeper, and by a writer that has written before
  induction f using Field.induction with
  | mk spec children ih =>
    intro path depth w
    rw [writeField]
    cases htype : spec.type with
    | unrecognized raw =>
      rw [hlines.note htype]
      rfl
    | known kind =>
      dsimp only
      split
      · next hobjects =>
        rw [writeFields_of_forall fun f hf => ih f hf _ _, hlines.objects htype hobjects,
          List.cons_append, Writer.lines_cons, Writer.lines_append]
        rfl
      · next hvalue =>
        rw [hlines.value htype (Bool.not_eq_true _ ▸ hvalue)]
        rfl

/-- Siblings are written as their lines, one after the other. -/
theorem writeFields_eq (hlines : text.Describes lines) (parent : String) (depth : Nat)
    (fs : List Field) (w : Writer) :
    text.writeFields parent depth fs w =
      w.lines (fs.flatMap fun f => lines (Field.joinPath parent f.name) depth f) :=
  writeFields_of_forall (fun f _ => hlines.writeField_eq f _ depth) w

end Describes

end MemberText

namespace Zod

/-- What the members of a schema say. -/
def memberText : MemberText where
  opening f := propertyKey f.name ++ ": z.array(z.object(\x7b"
  closing f := "\x7d))" ++ Member.listSuffix (minItemsOf f.spec) ++ ","
  value kind f := propertyKey f.name ++ ": " ++ (ofLeaf kind f.spec f.itemKind).text ++ ","

/-- The text of the schema file, written in a style. -/
def writtenFile (style : Style) (ids : Identifiers) (fields : List Field) : String :=
  let w : Writer := { style := style }
  let w := (w.line 0 "import \x7b z \x7d from 'zod';").blank
  let w := w.line 0 ("export const " ++ ids.schemaName ++ " = z.object(\x7b")
  let w := ((memberText.writeFields "" 1 fields w).line 0 "\x7d);").blank
  (w.line 0 ("export type " ++ ids.formDataType ++ " = z.infer<typeof " ++ ids.schemaName ++
    ">;")).text

theorem memberText_describes :
    memberText.Describes fun path depth f => (Member.ofField path f).lines depth where
  note {path depth f raw} htype := by
    obtain ⟨spec, children⟩ := f
    rw [Member.ofField, htype]
    rfl
  objects {path depth f kind} htype hobjects := by
    obtain ⟨spec, children⟩ := f
    rw [Member.ofField, htype]
    dsimp only
    rw [if_pos hobjects, Member.lines, Member.lines_ofFields]
    rfl
  value {path depth f kind} htype hvalue := by
    obtain ⟨spec, children⟩ := f
    rw [Member.ofField, htype]
    dsimp only
    rw [hvalue, if_neg Bool.false_ne_true]
    rfl

/-- **The schema file is written as its lines.** -/
theorem writtenFile_eq (style : Style) (ids : Identifiers) (fields : List Field) :
    writtenFile style ids fields = style.lines (schemaLines ids fields) := by
  have hmembers : ∀ w : Writer, memberText.writeFields "" 1 fields w =
      w.lines (Member.allLines 1 (Member.ofFields "" fields)) := by
    intro w
    rw [memberText_describes.writeFields_eq, Member.lines_ofFields]
  simp only [writtenFile, hmembers, Writer.line_eq_lines, Writer.blank_eq_lines,
    ← Writer.lines_append, Writer.text_lines_new]
  rw [schemaLines]
  simp only [List.append_assoc, List.cons_append, List.nil_append]

end Zod

namespace Interface

/-- What the members of an interface say. -/
def memberText : MemberText where
  opening f := Member.head f.name f.required ++ "Array<\x7b"
  closing _ := "\x7d>;"
  value kind f := Member.head f.name f.required ++ (Ty.ofLeaf kind f.spec f.itemKind).text ++ ";"

/-- The text of the file of the interface, written in a style. -/
def writtenFile (style : Style) (ids : Identifiers) (fields : List Field) : String :=
  let w : Writer := { style := style }
  let w := w.line 0 ("export interface " ++ ids.formDataType ++ " \x7b")
  ((memberText.writeFields "" 1 fields w).line 0 "\x7d").text

theorem memberText_describes :
    memberText.Describes fun path depth f => (Member.ofField path f).lines depth where
  note {path depth f raw} htype := by
    obtain ⟨spec, children⟩ := f
    rw [Member.ofField, htype]
    rfl
  objects {path depth f kind} htype hobjects := by
    obtain ⟨spec, children⟩ := f
    rw [Member.ofField, htype]
    dsimp only
    rw [if_pos hobjects, Member.lines, Member.lines_ofFields]
    rfl
  value {path depth f kind} htype hvalue := by
    obtain ⟨spec, children⟩ := f
    rw [Member.ofField, htype]
    dsimp only
    rw [hvalue, if_neg Bool.false_ne_true]
    rfl

/-- **The file of the interface is written as its lines.** -/
theorem writtenFile_eq (style : Style) (ids : Identifiers) (fields : List Field) :
    writtenFile style ids fields = style.lines (fileLines ids fields) := by
  have hmembers : ∀ w : Writer, memberText.writeFields "" 1 fields w =
      w.lines (Member.allLines 1 (Member.ofFields "" fields)) := by
    intro w
    rw [memberText_describes.writeFields_eq, Member.lines_ofFields]
  simp only [writtenFile, hmembers, Writer.line_eq_lines, ← Writer.lines_append,
    Writer.text_lines_new]
  rw [fileLines]
  simp only [List.cons_append, List.nil_append]

end Interface

/-! ## Artifacts -/

/-- The text of an artifact, written straight to text in a style. -/
def ArtifactKind.written (kind : ArtifactKind) (style : Style) (ids : Identifiers) (form : Form) :
    String :=
  match kind with
  | .component => Component.writtenFile style ids form
  | .schema => Zod.writtenFile style ids form.fields
  | .types => Interface.writtenFile style ids form.fields

theorem ArtifactKind.written_eq (kind : ArtifactKind) (style : Style) (ids : Identifiers)
    (form : Form) : kind.written style ids form = style.lines (kind.lines ids form) := by
  cases kind with
  | component => exact Component.writtenFile_eq style ids form
  | schema => exact Zod.writtenFile_eq style ids form.fields
  | types => exact Interface.writtenFile_eq style ids form.fields

/-- **The style of an artifact is layout only.** Each artifact of a form is one sequence of lines,
laid out in every style both by the artifact and by the writers that write it straight to text. The
fields of the component file and its inner components, which are texts of their own before the file
is put together, are lines of this sequence that are laid out in the same way. -/
theorem Artifact.laid_out_in_every_style (form : Form) (ids : Identifiers) :
    ∃ lines : ArtifactKind → List Line,
      (∀ (kind : ArtifactKind) (style : Style),
        (Artifact.ofForm style ids form kind).content =
            layOut style.indent.unit style.lineEnding.text (lines kind) ∧
          kind.written style ids form =
            layOut style.indent.unit style.lineEnding.text (lines kind)) ∧
      ∃ (body : List Line) (inner : List (List Line)),
        body <:+: lines .component ∧ (∀ part ∈ inner, part <:+: lines .component) ∧
          ∀ style : Style,
            (Component.writtenFields style ids form.fields).writer.text =
                layOut style.indent.unit style.lineEnding.text body ∧
              (Component.writtenFields style ids form.fields).finished =
                inner.map (layOut style.indent.unit style.lineEnding.text) := by
  refine ⟨fun kind => kind.lines ids form, fun kind style => ⟨style.lines_eq_layOut _, ?_⟩, _,
    (Component.Rendered.ofFields ids form.fields).subComponents.map (·.lines),
    Component.separated_infix_fileLines ids form,
    List.forall_mem_map.mpr fun c hc => Component.inner_infix_fileLines hc, fun style => ?_⟩
  · rw [ArtifactKind.written_eq, Style.lines_eq_layOut]
  · obtain ⟨htext, hfinished⟩ := Component.writtenFields_eq style ids form.fields
    refine ⟨htext.trans (style.lines_eq_layOut _), ?_⟩
    rw [hfinished, List.map_map]
    refine List.map_congr_left fun c _ => ?_
    rw [Function.comp_apply, style.lines_eq_layOut]

end WebForm
