import WebForm.Proofs.Component.Rendering
import WebForm.Proofs.Source.Writer
/-!
# Writing a component file

The component file can be written straight to text, without markup or lines in between: the fields
come first, by a writer of their own, and whenever a list is met inside the items of another one,
the text around it is set aside and its component is written by a writer of its own. The file is
put together afterwards from what is text by then: the components of the inner lists stand before
the main component, and the fields inside of it.

Here this order of writing is shown to come to the file that `fileLines` describes. `WritesOut` says
that some writing does what some rendering does: it takes the same names, completes the same
components, and writes the lines of the markup. It is carried through the fields of a form from left
to right, and through the items of a list to the fields inside them.
-/

set_option autoImplicit false

namespace WebForm.Component

open Source Markup

/-! ## Pieces of the file

The lines around the fields of an item, around the list in an inner component, and around the fields
of the form. -/

/-- A list up to its items. -/
def listOpening (depth : Nat) (f : Field) (path : FieldPath) (handles : Handles) : List Line :=
  ⟨depth, "<FieldWrapper"⟩ :: allLines (depth + 1) (wrapperAttributes f.spec path) ++
    [⟨depth + 1, "field=\x7b"⟩, ⟨depth + 2, "<VStack align=\"stretch\">"⟩] ++
    (listHeader f handles).lines (depth + 3) ++
    [Line.blank, ⟨depth + 3, "\x7b" ++ handles.fields ++ ".map((item, index) => ("⟩]

/-- A list from behind its items. -/
def listClosing (depth : Nat) (f : Field) (handles : Handles) : List Line :=
  [⟨depth + 3, "))\x7d"⟩, Line.blank,
    ⟨depth + 3, "\x7b" ++ handles.fields ++ ".length === 0 && ("⟩] ++
    (emptyNote f).lines (depth + 4) ++
    [⟨depth + 3, ")\x7d"⟩, ⟨depth + 2, "</VStack>"⟩, ⟨depth + 1, "\x7d"⟩, ⟨depth, "/>"⟩]

/-- An item up to its fields. -/
def itemOpening (depth : Nat) (f : Field) (handles : Handles) : List Line :=
  [⟨depth, "<Box"⟩,
    ⟨depth + 1, "key=\x7bitem.id\x7d"⟩,
    ⟨depth + 1, "p=\x7b4\x7d"⟩,
    ⟨depth + 1, "border=\"1px\""⟩,
    ⟨depth + 1, "borderColor=\"gray.200\""⟩,
    ⟨depth + 1, "borderRadius=\"md\""⟩,
    ⟨depth + 1, "bg=\"gray.50\""⟩,
    ⟨depth, ">"⟩,
    ⟨depth + 1, "<HStack justify=\"space-between\" align=\"center\" mb=\x7b4\x7d>"⟩,
    ⟨depth + 2, "<Text fontWeight=\"medium\" color=\"gray.700\">"⟩,
    ⟨depth + 3, childText f.label ++ " #" ++ braced "index + 1"⟩,
    ⟨depth + 2, "</Text>"⟩] ++
    (removeButton handles).lines (depth + 2) ++
    [⟨depth + 1, "</HStack>"⟩, Line.blank, ⟨depth + 1, "<VStack align=\"stretch\">"⟩]

/-- An item from behind its fields. -/
def itemClosing (depth : Nat) : List Line := [⟨depth + 1, "</VStack>"⟩, ⟨depth, "</Box>"⟩]

/-- An inner component up to its list. -/
def innerOpening (name : String) : List Line :=
  [⟨0, "interface " ++ subComponentProps name ++ " \x7b"⟩,
    ⟨1, "control: Control<any>;"⟩,
    ⟨1, "register: UseFormRegister<any>;"⟩,
    ⟨1, "formState: FormState<any>;"⟩,
    ⟨1, "path: string;"⟩,
    ⟨0, "\x7d"⟩,
    .blank,
    ⟨0, "const " ++ name ++ ": React.FC<" ++ subComponentProps name ++
      "> = (\x7b control, register, formState, path \x7d) => \x7b"⟩,
    ⟨1, "const \x7b fields, append, remove \x7d = useFieldArray(\x7b"⟩,
    ⟨2, "control,"⟩,
    ⟨2, "name: path,"⟩,
    ⟨1, "\x7d);"⟩,
    .blank,
    ⟨1, "return ("⟩]

/-- An inner component from behind its list. -/
def innerClosing : List Line := [⟨1, ");"⟩, ⟨0, "\x7d;"⟩]

/-- The main component up to its fields. -/
def mainOpening (ids : Identifiers) (form : Form) (u : Usage) : List Line :=
  ⟨0, "const " ++ ids.componentName ++ ": React.FC<" ++ ids.propsName ++
      "> = (\x7b onSubmit: onSubmitProp \x7d) => \x7b"⟩ ::
    formLines ids u form.fields ++ [Line.blank] ++
    (arrayHandles form.fields).flatMap (fun (name, h) => hookLines name h) ++
    submitLines ids ++
    [Line.blank,
      ⟨1, "return ("⟩,
      ⟨2, "<Box maxW=\"4xl\" mx=\"auto\" p=\x7b6\x7d>"⟩,
      ⟨3, "<VStack align=\"stretch\" gap=\x7b6\x7d>"⟩,
      ⟨4, "<Heading size=\"lg\" color=\"gray.700\" textAlign=\"center\">"⟩,
      ⟨5, childText form.title⟩,
      ⟨4, "</Heading>"⟩,
      .blank]

/-- The file from behind the fields of the form. -/
def fileClosing (ids : Identifiers) : List Line :=
  [⟨4, "<Button"⟩,
    ⟨5, "onClick=\x7bhandleSubmit(onSubmit)\x7d"⟩,
    ⟨5, "type=\"submit\""⟩,
    ⟨5, "colorPalette=\"blue\""⟩,
    ⟨5, "size=\"lg\""⟩,
    ⟨5, "loading=\x7bformState.isSubmitting\x7d"⟩,
    ⟨5, "loadingText=\"Submitting...\""⟩,
    ⟨5, "mt=\x7b6\x7d"⟩,
    ⟨4, ">"⟩,
    ⟨5, "Submit Form"⟩,
    ⟨4, "</Button>"⟩,
    ⟨3, "</VStack>"⟩,
    ⟨2, "</Box>"⟩,
    ⟨1, ");"⟩,
    ⟨0, "\x7d;"⟩,
    .blank,
    ⟨0, "export default " ++ ids.componentName ++ ";"⟩]

/-! ## Writing -/

/-- Where the writing of fields stands: the writer in use, the names that are taken, and the texts
of the inner components that are complete, in order. -/
structure Writing where
  writer : Writer
  taken : List String
  finished : List String

namespace Writing

/-- Writes lines by the writer in use. -/
def lines (s : Writing) (ls : List Line) : Writing := { s with writer := s.writer.lines ls }

/-- Writes a list. What writes the fields of an item is handed in, and left out where items have
none. -/
def list (depth : Nat) (f : Field) (path : FieldPath) (handles : Handles)
    (fields : Writing → Writing) (s : Writing) : Writing :=
  let opened := s.lines (listOpening depth f path handles)
  let filled :=
    if f.children.isEmpty then opened.lines ((primitiveItem f path.item handles).lines (depth + 4))
    else (fields (opened.lines (itemOpening (depth + 4) f handles))).lines (itemClosing (depth + 4))
  filled.lines (listClosing depth f handles)

/-- Takes a free name, and starts a text of its own. -/
def begin (base : String) (s : Writing) : Writing :=
  ⟨{ style := s.writer.style }, freeName s.taken base :: s.taken, s.finished⟩

/-- Lays a complete text aside, and goes on with another writer. -/
def complete (s : Writing) (w : Writer) : Writing :=
  ⟨w, s.taken, s.finished ++ [s.writer.text]⟩

/-- Writes an inner component, which has a text of its own. -/
def inner (base : String) (body : Writing → Writing) (s : Writing) : String × Writing :=
  let name := freeName s.taken base
  -- components inside of this one are complete before it is, and are named behind it
  let done := (body ((s.begin base).lines (innerOpening name))).lines innerClosing
  (name, done.complete s.writer)

mutual

/-- Writes a field of an item. -/
def itemField (component : String) (item : FieldPath) (parent : String) (depth : Nat) :
    Field → Writing → Writing
  | ⟨spec, children⟩ => fun s =>
    let path := item.child spec.name
    let display := parent ++ "." ++ spec.name
    match spec.type with
    | .unrecognized raw => s.lines [⟨depth, unsupportedElement raw display⟩]
    | .known .array =>
      let list := FieldPath.variable "path"
      let fields := itemFields component list.item display 8 children
      let (name, s) := s.inner (subComponentBase component display)
        (Writing.list 2 ⟨spec, children⟩ list .own fields)
      s.lines
        [⟨depth, "<" ++ name⟩,
          ⟨depth + 1, "control=\x7bcontrol\x7d"⟩,
          ⟨depth + 1, "register=\x7bregister\x7d"⟩,
          ⟨depth + 1, "formState=\x7bformState\x7d"⟩,
          ⟨depth + 1, "path=" ++ path.inAttribute⟩,
          ⟨depth, "/>"⟩]
    | .known kind => s.lines ((leafElement ⟨spec, children⟩ kind path true).lines depth)
termination_by structural f => f

/-- Writes the fields of an item. -/
def itemFields (component : String) (item : FieldPath) (parent : String) (depth : Nat) :
    List Field → Writing → Writing
  | [] => id
  | f :: rest => fun s =>
    itemFields component item parent depth rest (itemField component item parent depth f s)
termination_by structural fs => fs

end

/-- Writes a field at the top of a form. -/
def topField (component : String) (handles : List (String × Handles)) (depth : Nat) (f : Field) :
    Writing → Writing :=
  let path := FieldPath.literal f.name
  match f.spec.type with
  | .unrecognized raw => (·.lines [⟨depth, unsupportedElement raw f.name⟩])
  | .known .array =>
    let own := (handles.lookup f.name).getD (.ofBase (Handles.base f.name))
    list depth f path own (itemFields component path.item f.name (depth + 6) f.children)
  | .known kind => (·.lines ((leafElement f kind path false).lines depth))

/-- Writes the fields of a form, with an empty line between any two of them. -/
def topFields (component : String) (handles : List (String × Handles)) (depth : Nat) :
    List Field → Writing → Writing
  | [], s => s
  | f :: rest, s =>
    rest.foldl (fun s g => topField component handles depth g (s.lines [.blank]))
      (topField component handles depth f s)

end Writing

/-- Writes the fields of a form in a style. -/
def writtenFields (style : Style) (ids : Identifiers) (fields : List Field) : Writing :=
  Writing.topFields ids.componentName (arrayHandles fields) 4 fields
    ⟨{ style := style }, [ids.propsName, ids.componentName], []⟩

/-- The text of the whole file, put together in a style. -/
def writtenFile (style : Style) (ids : Identifiers) (form : Form) : String :=
  let usage := Usage.ofFields false form.fields
  let fields := writtenFields style ids form.fields
  let head := (({ style := style : Writer }.lines (fileImports ids usage)).blank.lines
    (propsLines ids)).blank
  let inner := fields.finished.foldl (fun w text => (w.append text).blank) head
  let opened := inner.lines (mainOpening ids form usage)
  -- the empty line behind the fields is not one of theirs
  let filled :=
    if fields.writer.text.isEmpty then opened else (opened.append fields.writer.text).blank
  (filled.lines (fileClosing ids)).text

/-! ## Pieces put together -/

/-- An item is what is written before, in and behind its fields. -/
theorem lines_objectItem {depth : Nat} {f : Field} {handles : Handles} (ms : List Markup) :
    (objectItem f handles ms).lines depth =
      itemOpening depth f handles ++ allLines (depth + 2) ms ++ itemClosing depth := by
  simp [objectItem, itemOpening, itemClosing, Markup.lines, allLines, allLines_eq_flatMap,
    attributesText, Attribute.write, closing, braced, String.join]

/-- A list is what is written before, in and behind its items. -/
theorem lines_listElement {depth : Nat} {f : Field} {path : FieldPath} {handles : Handles}
    (ms : List Markup) :
    (listElement f path handles ms).lines depth =
      listOpening depth f path handles ++
        (if f.children.isEmpty then (primitiveItem f path.item handles).lines (depth + 4)
          else (objectItem f handles ms).lines (depth + 4)) ++
        listClosing depth f handles := by
  have hitem : (if f.children.isEmpty then primitiveItem f path.item handles
      else objectItem f handles ms).lines (depth + 4) =
        if f.children.isEmpty then (primitiveItem f path.item handles).lines (depth + 4)
        else (objectItem f handles ms).lines (depth + 4) :=
    apply_ite (Markup.lines (depth + 4)) _ _ _
  rw [← hitem]
  simp [listElement, wrapped, listOpening, listClosing, Markup.lines, allLines,
    allLines_eq_flatMap, attributesText, Attribute.write, closing, String.join]

/-- The fields of a form with an empty line between any two of them. -/
def separated (depth : Nat) : List Markup → List Line
  | [] => []
  | m :: rest => m.lines depth ++ rest.flatMap fun m => .blank :: m.lines depth

/-- Every piece of markup has a line. -/
theorem lines_ne_nil (depth : Nat) (m : Markup) : m.lines depth ≠ [] := by
  cases m <;> simp [Markup.lines]

theorem separated_eq_nil_iff {depth : Nat} {ms : List Markup} :
    separated depth ms = [] ↔ ms = [] := by
  cases ms with
  | nil => exact iff_of_true rfl rfl
  | cons m rest =>
    refine iff_of_false (fun h => ?_) (List.cons_ne_nil m rest)
    exact lines_ne_nil depth m (List.append_eq_nil_iff.mp h).1

/-- Fields that are followed by an empty line each are separated by one, and followed by one. -/
theorem allLines_spaced {depth : Nat} {ms : List Markup} (h : ms ≠ []) :
    allLines depth (spaced ms) = separated depth ms ++ [Line.blank] := by
  obtain ⟨m, rest, rfl⟩ := List.exists_cons_of_ne_nil h
  clear h
  rw [separated]
  induction rest generalizing m with
  | nil => simp [spaced, allLines, Markup.lines]
  | cons m' rest ih =>
    rw [spaced, allLines, allLines, ih m']
    simp [Markup.lines]

/-- The file is what is written before, in and behind the fields of the form. -/
theorem fileLines_eq (ids : Identifiers) (form : Form) :
    fileLines ids form =
      fileImports ids (Usage.ofFields false form.fields) ++ [Line.blank] ++
        propsLines ids ++ [Line.blank] ++
        (Rendered.ofFields ids form.fields).subComponents.flatMap
          (fun c => c.lines ++ [Line.blank]) ++
        mainOpening ids form (Usage.ofFields false form.fields) ++
        allLines 4 (spaced (Rendered.ofFields ids form.fields).fields) ++ fileClosing ids := by
  simp [fileLines, mainLines, mainOpening, fileClosing, pageMarkup, Markup.lines, allLines,
    allLines_eq_flatMap, attributesText, Attribute.write, closing, braced, String.join]

/-- The lines of the fields stand in the file one after the other. -/
theorem separated_infix_fileLines (ids : Identifiers) (form : Form) :
    separated 4 (Rendered.ofFields ids form.fields).fields <:+: fileLines ids form := by
  rw [fileLines_eq]
  by_cases hnone : (Rendered.ofFields ids form.fields).fields = []
  · rw [separated_eq_nil_iff.mpr hnone]
    exact List.nil_infix
  · rw [allLines_spaced hnone]
    refine List.IsInfix.trans ?_ (List.prefix_append _ _).isInfix
    exact (List.prefix_append _ _).isInfix.trans (List.suffix_append _ _).isInfix

/-- The lines of an inner component stand in the file one after the other. -/
theorem inner_infix_fileLines {ids : Identifiers} {form : Form} {c : SubComponent}
    (h : c ∈ (Rendered.ofFields ids form.fields).subComponents) :
    c.lines <:+: fileLines ids form := by
  obtain ⟨before, after, hsplit⟩ := List.append_of_mem h
  rw [fileLines_eq, hsplit, List.flatMap_append, List.flatMap_cons]
  refine ⟨fileImports ids (Usage.ofFields false form.fields) ++ [Line.blank] ++ propsLines ids ++
    [Line.blank] ++ before.flatMap fun c => c.lines ++ [Line.blank], ?_, ?_⟩
  · exact [Line.blank] ++ after.flatMap (fun c => c.lines ++ [Line.blank]) ++
      mainOpening ids form (Usage.ofFields false form.fields) ++
      allLines 4 (spaced (Rendered.ofFields ids form.fields).fields) ++ fileClosing ids
  · simp only [List.append_assoc]

/-! ## Writing and rendering -/

/-- Some rendered parts as they are written, by a writer that stands somewhere in the file. -/
def Parts.written (parts : Parts) (w : Writer) : Writing :=
  ⟨w, parts.taken, parts.finished.map fun c => w.style.lines c.lines⟩

/-- Some writing does what some rendering does, the result of which stands for lines. The style of
the writer is of no account. -/
def WritesOut {α : Type} (lines : α → List Line) (render : Render α) (write : Writing → Writing) :
    Prop :=
  ∀ parts a parts', render.run parts = (a, parts') →
    ∀ w : Writer, write (parts.written w) = parts'.written (w.lines (lines a))

theorem Parts.lines_written (parts : Parts) (w : Writer) (ls : List Line) :
    (parts.written w).lines ls = parts.written (w.lines ls) := by
  rw [written, written, Writing.lines, Writer.style_lines]

theorem Parts.begin_written (parts : Parts) (base : String) (w : Writer) :
    (parts.written w).begin base =
      Parts.written ⟨freeName parts.taken base :: parts.taken, parts.finished⟩
        { style := w.style } := rfl

/-- A component whose text is laid aside is complete. -/
theorem Parts.complete_written (parts : Parts) (c : SubComponent) (w : Writer) :
    (parts.written (Writer.lines { style := w.style } c.lines)).complete w =
      Parts.written ⟨parts.taken, parts.finished ++ [c]⟩ w := by
  simp only [written, Writing.complete, Writer.style_lines, Writer.text_lines_new, List.map_append,
    List.map_singleton]

namespace WritesOut

section
variable {depth : Nat}

/-- What is rendered without naming a component is written in its place. -/
theorem pure {m : Markup} :
    WritesOut (Markup.lines depth) (Pure.pure m) (·.lines (m.lines depth)) := by
  intro parts a parts' h w
  obtain ⟨rfl, rfl⟩ := run_pure_eq_iff.mp h
  exact parts.lines_written w _

/-- Fields are written one after the other. -/
theorem cons {first : Markup → List Line} {rest all : List Markup → List Line}
    {render : Render Markup} {renderRest : Render (List Markup)}
    {write writeRest : Writing → Writing} (hfirst : WritesOut first render write)
    (hall : ∀ m ms, all (m :: ms) = first m ++ rest ms)
    (hrest : WritesOut rest renderRest writeRest) :
    WritesOut all (do let m ← render; let ms ← renderRest; return m :: ms)
      (fun s => writeRest (write s)) := by
  intro parts a parts' h w
  obtain ⟨m, mid, hm, h⟩ := run_bind_eq_iff.mp h
  obtain ⟨ms, last, hms, h⟩ := run_bind_eq_iff.mp h
  obtain ⟨rfl, rfl⟩ := run_pure_eq_iff.mp h
  show writeRest (write (parts.written w)) = _
  rw [hfirst parts m mid hm, hrest mid ms last hms, hall, Writer.lines_append]

/-- An empty line comes before what is written. -/
theorem after_blank {lines : Markup → List Line} {render : Render Markup}
    {write : Writing → Writing} (h : WritesOut lines render write) :
    WritesOut (fun m => .blank :: lines m) render (fun s => write (s.lines [.blank])) := by
  intro parts m parts' hrun w
  show write ((parts.written w).lines [.blank]) = _
  rw [Parts.lines_written, h parts m parts' hrun]
  rfl

/-- A list is written around the fields of its items. -/
theorem list {component display : String} {f : Field} {path : FieldPath} {handles : Handles}
    {fields : Writing → Writing}
    (hfields : WritesOut (allLines (depth + 6)) (itemFields component path.item display f.children)
      fields) :
    WritesOut (Markup.lines depth)
      (do
        let ms ← itemFields component path.item display f.children
        return listElement f path handles ms)
      (Writing.list depth f path handles fields) := by
  intro parts a parts' h w
  obtain ⟨ms, inside, hms, h⟩ := run_bind_eq_iff.mp h
  obtain ⟨rfl, rfl⟩ := run_pure_eq_iff.mp h
  rw [Writing.list, Parts.lines_written, lines_listElement, Writer.lines_append,
    Writer.lines_append]
  by_cases hnone : f.children.isEmpty = true
  · -- without fields there is nothing that could name a component
    rw [List.isEmpty_iff.mp hnone, itemFields] at hms
    obtain ⟨-, rfl⟩ := run_pure_eq_iff.mp hms
    simp only [if_pos hnone, Parts.lines_written]
  · simp only [if_neg hnone, Parts.lines_written, hfields parts ms inside hms, lines_objectItem,
      Writer.lines_append]

end

/-- An inner component is written with the name that it is rendered with, and what is written
around it is left as it is. -/
theorem inner {base : String} {render : Render Markup} {body : Writing → Writing}
    (hbody : WritesOut (Markup.lines 2) render body) {parts inside : Parts} {m : Markup}
    (h : render.run ⟨freeName parts.taken base :: parts.taken, parts.finished⟩ = (m, inside))
    (w : Writer) :
    Writing.inner base body (parts.written w) =
      (freeName parts.taken base,
        Parts.written ⟨inside.taken, inside.finished ++ [⟨freeName parts.taken base, m⟩]⟩ w) := by
  rw [Writing.inner, Parts.begin_written, Parts.lines_written, hbody _ m inside h,
    Parts.lines_written, ← Writer.lines_append, ← Writer.lines_append, ← List.append_assoc]
  exact congrArg _ (inside.complete_written ⟨freeName parts.taken base, m⟩ w)

end WritesOut

/-! ## Fields -/

/-- The fields of an item are written as they are rendered, if each of them is. -/
theorem writesOut_itemFields {component parent : String} {item : FieldPath} {depth : Nat}
    {fs : List Field}
    (h : ∀ f ∈ fs, WritesOut (Markup.lines depth) (itemField component item parent f)
      (Writing.itemField component item parent depth f)) :
    WritesOut (allLines depth) (itemFields component item parent fs)
      (Writing.itemFields component item parent depth fs) := by
  induction fs with
  | nil =>
    intro parts a parts' hrun w
    obtain ⟨rfl, rfl⟩ := run_pure_eq_iff.mp hrun
    rfl
  | cons f rest ih =>
    rw [List.forall_mem_cons] at h
    rw [itemFields, Writing.itemFields]
    exact h.1.cons (fun _ _ => rfl) (ih h.2)

/-- **A field of an item is written as it is rendered.** -/
theorem writesOut_itemField (f : Field) : ∀ component item parent depth,
    WritesOut (Markup.lines depth) (itemField component item parent f)
      (Writing.itemField component item parent depth f) := by
  -- for every path and depth, as an inner list is written at a place of its own
  induction f using Field.induction with
  | mk spec children ih =>
    intro component item parent depth
    cases htype : spec.type with
    | unrecognized raw =>
      rw [itemField, Writing.itemField, htype]
      exact WritesOut.pure
    | known kind =>
      cases kind with
      | array =>
        intro parts m parts' h w
        rw [itemField, htype] at h
        obtain ⟨name, named, hname, h⟩ := run_bind_eq_iff.mp h
        obtain ⟨fields, inside, hfields, h⟩ := run_bind_eq_iff.mp h
        obtain ⟨u, done, hfinish, h⟩ := run_bind_eq_iff.mp h
        obtain ⟨rfl, rfl⟩ := run_pure_eq_iff.mp h
        obtain ⟨rfl, rfl⟩ := Prod.mk.inj hname
        obtain ⟨-, rfl⟩ := Prod.mk.inj hfinish
        -- the list is all that the inner component writes between its head and its end
        have hbody := @WritesOut.list 2 component (parent ++ "." ++ spec.name) ⟨spec, children⟩
          (.variable "path") .own _ (writesOut_itemFields fun f hf => ih f hf _ _ _ 8)
        rw [Writing.itemField, htype]
        dsimp only
        rw [hbody.inner (run_bind_eq_iff.mpr ⟨fields, inside, hfields, rfl⟩) w, Parts.lines_written]
        simp [Markup.lines, allLines, Attribute.write, braced]
      | _ =>
        rw [itemField, Writing.itemField, htype]
        exact WritesOut.pure

/-- **A field at the top of a form is written as it is rendered.** -/
theorem writesOut_topField (component : String) (handles : List (String × Handles)) (depth : Nat)
    (f : Field) :
    WritesOut (Markup.lines depth) (topField component handles f)
      (Writing.topField component handles depth f) := by
  cases htype : f.spec.type with
  | unrecognized raw =>
    rw [topField, Writing.topField, htype]
    exact WritesOut.pure
  | known kind =>
    cases kind with
    | array =>
      rw [topField, Writing.topField, htype]
      exact WritesOut.list (writesOut_itemFields fun g _ => writesOut_itemField g _ _ _ _)
    | _ =>
      rw [topField, Writing.topField, htype]
      exact WritesOut.pure

/-- The fields of a form are written as they are rendered, with empty lines between them. -/
theorem writesOut_topFields (component : String) (handles : List (String × Handles)) (depth : Nat)
    (fs : List Field) :
    WritesOut (separated depth) (fs.mapM (topField component handles))
      (Writing.topFields component handles depth fs) := by
  have hrest : ∀ rest : List Field,
      WritesOut (fun ms => ms.flatMap fun m => .blank :: m.lines depth)
        (rest.mapM (topField component handles))
        (fun s => rest.foldl
          (fun s g => Writing.topField component handles depth g (s.lines [.blank])) s) := by
    intro rest
    induction rest with
    | nil =>
      intro parts a parts' hrun w
      obtain ⟨rfl, rfl⟩ := run_pure_eq_iff.mp hrun
      rfl
    | cons f rest ih =>
      rw [List.mapM_cons]
      exact (writesOut_topField component handles depth f).after_blank.cons
        (fun _ _ => List.flatMap_cons) ih
  cases fs with
  | nil =>
    intro parts a parts' hrun w
    obtain ⟨rfl, rfl⟩ := run_pure_eq_iff.mp hrun
    rfl
  | cons f rest =>
    have hfirst := writesOut_topField component handles depth f
    have hfields := hfirst.cons (fun m ms => (rfl : separated depth (m :: ms) = _)) (hrest rest)
    rw [List.mapM_cons]
    exact hfields

/-! ## The file -/

/-- **The fields of a form are written as text before the file is.** In every style their text, and
the texts of the inner components, are those of the lines that the form is rendered to. -/
theorem writtenFields_eq (style : Style) (ids : Identifiers) (fields : List Field) :
    (writtenFields style ids fields).writer.text =
        style.lines (separated 4 (Rendered.ofFields ids fields).fields) ∧
      (writtenFields style ids fields).finished =
        (Rendered.ofFields ids fields).subComponents.map fun c => style.lines c.lines := by
  obtain ⟨ms, parts, hrun, hrendered⟩ := exists_run_ofFields ids fields
  have hwritten := writesOut_topFields ids.componentName (arrayHandles fields) 4 fields _ ms parts
    hrun { style := style }
  have hfields : writtenFields style ids fields =
      parts.written (Writer.lines { style := style } (separated 4 ms)) := hwritten
  rw [hrendered, hfields, Parts.written, Writer.style_lines]
  exact ⟨Writer.text_lines_new style _, rfl⟩

section
variable {style : Style} {w : Writer}

/-- The texts of inner components, each with an empty line behind it, are as good as their lines. -/
theorem foldl_append_blank (hw : w.style = style) (cs : List SubComponent) :
    (cs.map fun c => style.lines c.lines).foldl (fun w text => (w.append text).blank) w =
      w.lines (cs.flatMap fun c => c.lines ++ [Line.blank]) := by
  induction cs generalizing w with
  | nil => rfl
  | cons c rest ih =>
    have hfirst : (w.append (style.lines c.lines)).blank = w.lines (c.lines ++ [Line.blank]) := by
      rw [Writer.lines_append, ← hw, ← Writer.lines_eq_append, Writer.blank_eq_lines]
    rw [List.map_cons, List.foldl_cons, hfirst, ih (Writer.style_lines.trans hw),
      List.flatMap_cons, ← Writer.lines_append]

/-- The text of the fields, with an empty line behind it unless there is none, is as good as their
lines. -/
theorem append_fields (hw : w.style = style) (ms : List Markup) :
    (if (style.lines (separated 4 ms)).isEmpty then w
      else (w.append (style.lines (separated 4 ms))).blank) =
      w.lines (allLines 4 (spaced ms)) := by
  by_cases hnone : ms = []
  · rw [hnone]
    rfl
  · have htext : ¬ (style.lines (separated 4 ms)).isEmpty = true := by
      rw [String.isEmpty_iff, Style.lines_eq_empty_iff, separated_eq_nil_iff]
      exact hnone
    rw [if_neg htext, allLines_spaced hnone, Writer.lines_append, ← hw, ← Writer.lines_eq_append,
      Writer.blank_eq_lines]

end

/-- **The file is put together from texts, and comes to the text of its lines.** -/
theorem writtenFile_eq (style : Style) (ids : Identifiers) (form : Form) :
    writtenFile style ids form = style.lines (fileLines ids form) := by
  obtain ⟨htext, hfinished⟩ := writtenFields_eq style ids form.fields
  have hhead : ((Writer.lines { style := style } (fileImports ids
      (Usage.ofFields false form.fields))).blank.lines (propsLines ids)).blank =
        Writer.lines { style := style } (fileImports ids (Usage.ofFields false form.fields) ++
          [Line.blank] ++ propsLines ids ++ [Line.blank]) := by
    simp only [Writer.lines_append, Writer.blank_eq_lines]
  have hstyle : ∀ ls, (Writer.lines { style := style } ls).style = style := fun _ =>
    Writer.style_lines
  -- what has been written so far is one sequence of lines again after each step
  rw [writtenFile, hfinished, htext, fileLines_eq, hhead, foldl_append_blank (hstyle _),
    ← Writer.lines_append, ← Writer.lines_append, append_fields (hstyle _),
    ← Writer.lines_append, ← Writer.lines_append, Writer.text_lines_new]
  simp only [List.append_assoc]

end WebForm.Component
