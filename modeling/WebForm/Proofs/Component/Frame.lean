import WebForm.Proofs.Component.Written
/-!
# The frame of a component file

What a component file says around the markup of the fields: its imports, its properties, the heads
of its components with their hooks, and the page. Most of its lines hold nothing of the form. The
others hold names that are derived from the title, names of inner components, the names and initial
values of fields, handles, and the title itself; `FrameText` lists them once for all that is read
from them.
-/

set_option autoImplicit false

namespace WebForm.Component

open Source Identifier Markup

/-! ## Lines of the frame -/

/-- The lines of the frame that hold nothing of the form, and some of the others without what they
hold. -/
def frameConstants : List String :=
  (fileImports ⟨"", ""⟩ .all ++ propsLines ⟨"", ""⟩ ++ SubComponent.frame "" ++
    formLines ⟨"", ""⟩ .all [] ++ hookLines "" ⟨"", "", ""⟩ ++ submitLines ⟨"", ""⟩ ++
    (pageMarkup "" []).lines 2).map Line.text

/-- What a line of the frame can be. -/
inductive FrameText (ids : Identifiers) (form : Form) : String → Prop
  | constant {text : String} (h : text ∈ frameConstants) : FrameText ids form text
  | schemaImport : FrameText ids form
      ("import \x7b " ++ ids.schemaName ++ ", type " ++ ids.formDataType ++ " \x7d from './schema';")
  | props : FrameText ids form ("interface " ++ ids.propsName ++ " \x7b")
  | propsMember : FrameText ids form ("onSubmit?: (data: " ++ ids.formDataType ++ ") => void;")
  | innerProps {c : SubComponent} (h : c ∈ innerComponents ids form) :
      FrameText ids form ("interface " ++ subComponentProps c.name ++ " \x7b")
  | innerComponent {c : SubComponent} (h : c ∈ innerComponents ids form) :
      FrameText ids form ("const " ++ c.name ++ ": React.FC<" ++ subComponentProps c.name ++
        "> = (\x7b control, register, formState, path \x7d) => \x7b")
  | component : FrameText ids form ("const " ++ ids.componentName ++ ": React.FC<" ++
      ids.propsName ++ "> = (\x7b onSubmit: onSubmitProp \x7d) => \x7b")
  | formCall : FrameText ids form
      ("const \x7b " ++ ", ".intercalate (formBindings (Usage.ofFields false form.fields)) ++
        " \x7d = useForm<" ++ ids.formDataType ++ ">(\x7b")
  | resolver : FrameText ids form ("resolver: zodResolver(" ++ ids.schemaName ++ "),")
  | value {f : Field} (h : f ∈ form.fields) :
      FrameText ids form (propertyKey f.name ++ ": " ++ f.defaultRule.literal ++ ",")
  | hookCall {h : Handles} (hnames : h.Nameable) : FrameText ids form
      ("const \x7b fields: " ++ h.fields ++ ", append: " ++ h.append ++ ", remove: " ++ h.remove ++
        " \x7d = useFieldArray(\x7b")
  | hookList (name : String) : FrameText ids form ("name: " ++ quote name ++ ",")
  | submit : FrameText ids form ("const onSubmit = async (data: " ++ ids.formDataType ++ ") => \x7b")
  | title : FrameText ids form (childText form.title)
  | exported : FrameText ids form ("export default " ++ ids.componentName ++ ";")

/-- Lines that can all be in the frame. -/
def Framed (ids : Identifiers) (form : Form) (ls : List Line) : Prop :=
  ∀ l ∈ ls, FrameText ids form l.text

section
variable {ids : Identifiers} {form : Form}

theorem framed_cons {l : Line} {rest : List Line} :
    Framed ids form (l :: rest) ↔ FrameText ids form l.text ∧ Framed ids form rest :=
  List.forall_mem_cons

theorem framed_append {ls ls' : List Line} :
    Framed ids form (ls ++ ls') ↔ Framed ids form ls ∧ Framed ids form ls' :=
  List.forall_mem_append

theorem framed_nil : Framed ids form [] := List.forall_mem_nil _

theorem framed_flatMap {α : Type} {as : List α} {ls : α → List Line}
    (h : ∀ a ∈ as, Framed ids form (ls a)) : Framed ids form (as.flatMap ls) := by
  intro l hl
  obtain ⟨a, ha, hl⟩ := List.mem_flatMap.mp hl
  exact h a ha l hl

/-- Lines of the frame that hold nothing of the form. -/
theorem framed_constants {ls : List Line} (h : ls.map Line.text ⊆ frameConstants) :
    Framed ids form ls :=
  fun _ hl => .constant (h (List.mem_map_of_mem hl))

/-- The names that are imported are constants. -/
theorem framed_importLines {names : List (String × Bool)} {source : String}
    (h : "import \x7b" :: ("\x7d from '" ++ source ++ "';") ::
      (names.map Prod.fst).map (· ++ ",") ⊆ frameConstants) :
    Framed ids form (importLines (usedNames names) source) := by
  refine framed_constants fun text htext => h ?_
  simp only [importLines, List.map_append, List.map_cons, List.map_map, List.map_nil,
    List.cons_append, List.mem_cons, List.mem_append, List.mem_map, List.not_mem_nil,
    or_false] at htext ⊢
  rcases htext with rfl | ⟨name, hname, rfl⟩ | rfl
  · exact .inl rfl
  · obtain ⟨entry, hentry, rfl⟩ := List.mem_map.mp (mem_of_mem_usedNames hname)
    exact .inr (.inr ⟨entry, hentry, rfl⟩)
  · exact .inr (.inl rfl)

theorem framed_fileImports :
    Framed ids form (fileImports ids (Usage.ofFields false form.fields)) := by
  have hform : Framed ids form (importLines (formImports (Usage.ofFields false form.fields))
      "react-hook-form") := by
    refine framed_importLines ?_
    simp only [List.map_cons, List.map_nil]
    decide
  have helements : Framed ids form (importLines (elementImports (Usage.ofFields false form.fields))
      "@chakra-ui/react") := by
    refine framed_importLines ?_
    simp only [List.map_cons, List.map_nil]
    decide
  have hreact : FrameText ids form "import React from 'react';" := .constant (by decide)
  have hlibraries : Framed ids form
      [⟨0, "import \x7b zodResolver \x7d from '@hookform/resolvers/zod';"⟩,
        ⟨0, "import \x7b FieldWrapper \x7d from './FieldWrapper';"⟩] :=
    framed_constants (by decide)
  have hselect : Framed ids form (if (Usage.ofFields false form.fields).select then
      [⟨0, "import \x7b SelectFieldWrapper \x7d from './SelectFieldWrapper';"⟩] else []) := by
    split
    · exact framed_constants (by decide)
    · exact framed_nil
  simp only [fileImports, List.cons_append, framed_cons, framed_append]
  simp only [framed_cons] at hlibraries
  exact ⟨hreact, ⟨⟨⟨hform, helements⟩, hlibraries⟩, hselect⟩, .schemaImport, framed_nil⟩

theorem framed_inner {c : SubComponent} (h : c ∈ innerComponents ids form) :
    Framed ids form (SubComponent.frame c.name) := by
  have hbefore : Framed ids form [⟨1, "control: Control<any>;"⟩,
      ⟨1, "register: UseFormRegister<any>;"⟩, ⟨1, "formState: FormState<any>;"⟩,
      ⟨1, "path: string;"⟩, ⟨0, "\x7d"⟩, .blank] := framed_constants (by decide)
  have hinside : Framed ids form
      (hookBlock "const \x7b fields, append, remove \x7d = useFieldArray(\x7b" "name: path," ++
        [⟨1, "return ("⟩, Line.blank, ⟨1, ");"⟩, closingLine]) := framed_constants (by decide)
  have hframe : SubComponent.frame c.name =
      (⟨0, "interface " ++ subComponentProps c.name ++ " \x7b"⟩ ::
        [⟨1, "control: Control<any>;"⟩, ⟨1, "register: UseFormRegister<any>;"⟩,
          ⟨1, "formState: FormState<any>;"⟩, ⟨1, "path: string;"⟩, ⟨0, "\x7d"⟩, Line.blank]) ++
      (⟨0, "const " ++ c.name ++ ": React.FC<" ++ subComponentProps c.name ++
          "> = (\x7b control, register, formState, path \x7d) => \x7b"⟩ ::
        (hookBlock "const \x7b fields, append, remove \x7d = useFieldArray(\x7b" "name: path," ++
          [⟨1, "return ("⟩, Line.blank, ⟨1, ");"⟩, closingLine])) := rfl
  rw [hframe, framed_append]
  exact ⟨framed_cons.mpr ⟨.innerProps h, hbefore⟩, framed_cons.mpr ⟨.innerComponent h, hinside⟩⟩

theorem framed_formLines :
    Framed ids form (formLines ids (Usage.ofFields false form.fields) form.fields) := by
  have hvalues : FrameText ids form "defaultValues: \x7b" := .constant (by decide)
  have hend : Framed ids form [⟨2, "\x7d,"⟩, ⟨2, "mode: 'onChange',"⟩, ⟨1, "\x7d);"⟩] :=
    framed_constants (by decide)
  have hmembers : Framed ids form (form.fields.map fun f =>
      ⟨3, propertyKey f.name ++ ": " ++ f.defaultRule.literal ++ ","⟩) :=
    List.forall_mem_map.mpr fun f hf => .value hf
  simp only [formLines, framed_append, framed_cons]
  simp only [framed_cons] at hend
  exact ⟨⟨⟨.formCall, .resolver, hvalues, framed_nil⟩, hmembers⟩, hend⟩

theorem framed_hookLines {entry : String × Handles} (h : entry ∈ arrayHandles form.fields) :
    Framed ids form (hookLines entry.1 entry.2) := by
  have hcontrol : FrameText ids form "control," := .constant (by decide)
  have hend : Framed ids form [⟨1, "\x7d);"⟩, .blank] := framed_constants (by decide)
  simp only [hookLines_eq, hookBlock, framed_cons] at hend ⊢
  exact ⟨.hookCall (nameable_of_mem_arrayHandles entry h), hcontrol, .hookList entry.1, hend⟩

theorem framed_submitLines : Framed ids form (submitLines ids) := by
  have hinside : Framed ids form (submitLines ids).tail :=
    framed_constants (by rw [submitLines, List.tail_cons]; decide)
  rw [submitLines, framed_cons]
  exact ⟨.submit, hinside⟩

theorem framed_pageMarkup : Framed ids form ((pageMarkup form.title []).lines 2) := by
  have hpage : ∀ title, (pageMarkup title []).lines 2 =
      ((pageMarkup "" []).lines 2).take 3 ++ ⟨5, childText title⟩ ::
        ((pageMarkup "" []).lines 2).drop 4 := fun _ => rfl
  have hopen : Framed ids form (((pageMarkup "" []).lines 2).take 3) :=
    framed_constants (by decide)
  have hclose : Framed ids form (((pageMarkup "" []).lines 2).drop 4) :=
    framed_constants (by decide)
  rw [hpage, framed_append, framed_cons]
  exact ⟨hopen, .title, hclose⟩

/-- All lines of the frame are of these. -/
theorem framed_frame : Framed ids form (frame ids form) := by
  have hblank : FrameText ids form Line.blank.text := .constant (by decide)
  have hbrace : FrameText ids form "\x7d" := .constant (by decide)
  have hreturn : FrameText ids form "return (" := .constant (by decide)
  have hend : FrameText ids form ");" := .constant (by decide)
  have hclose : FrameText ids form "\x7d;" := .constant (by decide)
  have hspaces : Framed ids form (List.replicate (shownFields ids form).length Line.blank) := by
    intro l hl
    rw [List.eq_of_mem_replicate hl]
    exact hblank
  have hinner : Framed ids form
      ((innerComponents ids form).flatMap fun c => SubComponent.frame c.name) :=
    framed_flatMap fun c hc => framed_inner hc
  have hhooks : Framed ids form
      ((arrayHandles form.fields).flatMap fun entry => hookLines entry.1 entry.2) :=
    framed_flatMap fun entry hentry => framed_hookLines hentry
  have hprops : Framed ids form (propsLines ids) := by
    simp only [propsLines, framed_cons]
    exact ⟨.props, .propsMember, hbrace, framed_nil⟩
  have hmain : Framed ids form
      (mainLines ids form (Usage.ofFields false form.fields) []) := by
    simp only [mainLines, List.cons_append, framed_cons, framed_append]
    exact ⟨.component, ⟨⟨⟨⟨⟨framed_formLines, hblank, framed_nil⟩, hhooks⟩, framed_submitLines⟩,
      hblank, hreturn, framed_nil⟩, framed_pageMarkup⟩, hend, hclose, framed_nil⟩
  simp only [frame, mainFrame, framed_cons, framed_append]
  exact ⟨⟨⟨⟨⟨⟨framed_fileImports, hblank, framed_nil⟩, hprops⟩, hblank, framed_nil⟩, hinner⟩, hmain,
    hspaces⟩, hblank, .exported, framed_nil⟩

end

end WebForm.Component
