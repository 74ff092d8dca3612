import Mathlib.Data.List.Perm.Basic
import WebForm.Proofs.Component.References
import WebForm.Proofs.Component.Texts
/-!
# The texts of a component file

Which lines the fields of a form bring to its component file. A field of an item is written in its
place, unless it is a list: then the lines in its place only hand on its path, and the list itself
is written in an inner component. The lines of a list do not depend on what the fields in its items
are, so that each field can be looked at by itself: up to their order, the lines of a file are those
of its frame, those that each field brings, and the opening tags of the inner components.
-/

set_option autoImplicit false

namespace WebForm.Component

open Source Identifier Markup

/-! ## Handles -/

theorem Handles.nameable_own : own.Nameable := by
  unfold Nameable
  decide

/-- Whichever handles a list is rendered with, they are names. -/
theorem Handles.nameable_ofList (fields : List Field) (f : Field) :
    (ofList (arrayHandles fields) f).Nameable := by
  rw [ofList]
  cases hfound : (arrayHandles fields).lookup f.name with
  | none =>
    have hbase := isIdentifier_base f.name
    simp only [Nameable, names, ofBase, Option.getD_none, List.forall_mem_cons]
    exact ⟨isIdentifier_append hbase (by decide), isIdentifier_append hbase (by decide),
      isIdentifier_append hbase (by decide), List.forall_mem_nil _⟩
  | some own => exact nameable_of_mem_arrayHandles _ (mem_of_lookup hfound)

/-! ## Lines that a field brings -/

/-- What an inner component is handed. -/
def handedOn (p : FieldPath) : List Markup :=
  [.attr (.binding "control"), .attr (.binding "register"), .attr (.binding "formState"),
    .attr (.path "path" p)]

/-- The lines in the place of a field of an item. Of the element of an inner component this is what
stands behind its opening tag. -/
def itemTexts (within : FieldPath) (parent : String) (f : Field) : List String :=
  match f.spec.type with
  | .unrecognized raw => [unsupportedElement raw (parent ++ "." ++ f.name)]
  | .known .array => allTexts (handedOn (within.child f.name)) ++ ["/>"]
  | .known kind => (leafElement f kind (within.child f.name) true).texts

mutual

/-- The lines that a field of an item brings to inner components. -/
def innerTexts (parent : String) : Field → List String
  | ⟨spec, children⟩ =>
    if spec.type.kind? = some .array then
      (listElement ⟨spec, children⟩ (.variable "path") .own []).texts ++
        children.flatMap
          (itemTexts (FieldPath.variable "path").item (parent ++ "." ++ spec.name)) ++
        allInnerTexts (parent ++ "." ++ spec.name) children
    else []
termination_by structural f => f

/-- The lines that the fields of an item bring to inner components. -/
def allInnerTexts (parent : String) : List Field → List String
  | [] => []
  | f :: rest => innerTexts parent f ++ allInnerTexts parent rest
termination_by structural fs => fs

end

/-- The lines that a field at the top brings to the main component. -/
def topTexts (handles : List (String × Handles)) (f : Field) : List String :=
  match f.spec.type with
  | .unrecognized raw => [unsupportedElement raw f.name]
  | .known .array =>
    (listElement f (.literal f.name) (Handles.ofList handles f) []).texts ++
      f.children.flatMap (itemTexts (FieldPath.literal f.name).item f.name)
  | .known kind => (leafElement f kind (.literal f.name) false).texts

/-- The lines that a field at the top brings to inner components. -/
def topInnerTexts (f : Field) : List String :=
  if f.kind? = some .array then allInnerTexts f.name f.children else []

section
variable {within : FieldPath} {parent : String} {handles : List (String × Handles)} {f : Field}

theorem allInnerTexts_eq_flatMap (parent : String) (fs : List Field) :
    allInnerTexts parent fs = fs.flatMap (innerTexts parent) := by
  induction fs with
  | nil => rfl
  | cons f rest ih => rw [allInnerTexts, ih, List.flatMap_cons]

theorem innerTexts_of_array (h : f.kind? = some .array) :
    innerTexts parent f =
      (listElement f (.variable "path") .own []).texts ++
        f.children.flatMap (itemTexts (FieldPath.variable "path").item (parent ++ "." ++ f.name)) ++
        f.children.flatMap (innerTexts (parent ++ "." ++ f.name)) := by
  obtain ⟨spec, children⟩ := f
  rw [← allInnerTexts_eq_flatMap]
  exact if_pos h

theorem innerTexts_of_ne_array (h : f.kind? ≠ some .array) : innerTexts parent f = [] := by
  obtain ⟨spec, children⟩ := f
  exact if_neg h

theorem itemTexts_of_unrecognized {raw : String} (h : f.spec.type = .unrecognized raw) :
    itemTexts within parent f = [unsupportedElement raw (parent ++ "." ++ f.name)] := by
  rw [itemTexts, h]

theorem itemTexts_of_array (h : f.kind? = some .array) :
    itemTexts within parent f = allTexts (handedOn (within.child f.name)) ++ ["/>"] := by
  rw [itemTexts, Field.kind?_eq_some_iff.mp h]

theorem itemTexts_of_known {kind : FieldKind} (h : f.spec.type = .known kind)
    (hkind : kind ≠ .array) :
    itemTexts within parent f = (leafElement f kind (within.child f.name) true).texts := by
  rw [itemTexts, h]
  cases kind <;> first | rfl | exact absurd rfl hkind

theorem topTexts_of_unrecognized {raw : String} (h : f.spec.type = .unrecognized raw) :
    topTexts handles f = [unsupportedElement raw f.name] := by
  rw [topTexts, h]

theorem topTexts_of_array (h : f.kind? = some .array) :
    topTexts handles f =
      (listElement f (.literal f.name) (Handles.ofList handles f) []).texts ++
        f.children.flatMap (itemTexts (FieldPath.literal f.name).item f.name) := by
  rw [topTexts, Field.kind?_eq_some_iff.mp h]

theorem topTexts_of_known {kind : FieldKind} (h : f.spec.type = .known kind)
    (hkind : kind ≠ .array) :
    topTexts handles f = (leafElement f kind (.literal f.name) false).texts := by
  rw [topTexts, h]
  cases kind <;> first | rfl | exact absurd rfl hkind

theorem topInnerTexts_of_array (h : f.kind? = some .array) :
    topInnerTexts f = f.children.flatMap (innerTexts f.name) := by
  rw [topInnerTexts, if_pos h, allInnerTexts_eq_flatMap]

theorem topInnerTexts_of_ne_array (h : f.kind? ≠ some .array) : topInnerTexts f = [] := if_neg h

end

/-! ## Runs -/

/-- Lines that are some given ones up to their order, and opening tags of inner components. -/
def AreWith (component : String) (texts given : List String) : Prop :=
  ∃ names : List String, (∀ name ∈ names, IsInnerNameOf component name) ∧
    texts.Perm (names.map ("<" ++ ·) ++ given)

namespace AreWith

variable {component : String} {texts texts' given given' : List String}

theorem refl (texts : List String) : AreWith component texts texts :=
  ⟨[], List.forall_mem_nil _, List.Perm.refl _⟩

theorem append (h : AreWith component texts given) (h' : AreWith component texts' given') :
    AreWith component (texts ++ texts') (given ++ given') := by
  obtain ⟨names, hnames, hperm⟩ := h
  obtain ⟨names', hnames', hperm'⟩ := h'
  refine ⟨names ++ names', List.forall_mem_append.mpr ⟨hnames, hnames'⟩, ?_⟩
  refine (hperm.append hperm').trans ?_
  rw [List.map_append, List.append_assoc, List.append_assoc]
  exact (List.perm_append_comm_assoc _ _ _).append_left _

theorem of_perm (h : AreWith component texts given) (hperm : texts'.Perm texts) :
    AreWith component texts' given := by
  obtain ⟨names, hnames, hgiven⟩ := h
  exact ⟨names, hnames, hperm.trans hgiven⟩

theorem trans_perm (h : AreWith component texts given) (hperm : given.Perm given') :
    AreWith component texts given' := by
  obtain ⟨names, hnames, hgiven⟩ := h
  exact ⟨names, hnames, hgiven.trans (hperm.append_left _)⟩

/-- The opening tag of an inner component, before other lines. -/
theorem cons {name : String} (hname : IsInnerNameOf component name)
    (h : AreWith component texts given) : AreWith component (("<" ++ name) :: texts) given := by
  obtain ⟨names, hnames, hgiven⟩ := h
  exact ⟨name :: names, List.forall_mem_cons.mpr ⟨hname, hnames⟩, hgiven.cons _⟩

end AreWith

/-- What a run has written: lines in the place of the fields, and lines of the components that were
finished on the way. -/
structure Writes (component : String) (inPlace inner : List String) (ms : List Markup)
    (before after : Parts) : Prop where
  inPlace : AreWith component (allTexts ms) inPlace
  inner : ∃ new, after.finished = before.finished ++ new ∧
    AreWith component (new.flatMap fun c => c.body.texts) inner

namespace Writes

variable {component : String}

theorem nil (parts : Parts) : Writes component [] [] [] parts parts :=
  ⟨.refl _, [], (List.append_nil _).symm, .refl _⟩

/-- Markup that is written in its place. -/
theorem here (m : Markup) (parts : Parts) : Writes component m.texts [] [m] parts parts := by
  refine ⟨?_, [], (List.append_nil _).symm, .refl _⟩
  rw [allTexts_cons, allTexts_nil, List.append_nil]
  exact .refl _

theorem append {inPlace inPlace' inner inner' : List String} {ms ms' : List Markup}
    {a b c : Parts} (h : Writes component inPlace inner ms a b)
    (h' : Writes component inPlace' inner' ms' b c) :
    Writes component (inPlace ++ inPlace') (inner ++ inner') (ms ++ ms') a c := by
  obtain ⟨new, hnew, hinner⟩ := h.inner
  obtain ⟨new', hnew', hinner'⟩ := h'.inner
  refine ⟨?_, new ++ new', ?_, ?_⟩
  · rw [allTexts_append]
    exact h.inPlace.append h'.inPlace
  · rw [hnew', hnew, List.append_assoc]
  · rw [List.flatMap_append]
    exact hinner.append hinner'

end Writes

section
variable {component : String} {parts parts' : Parts}

/-- Fields that stand together are written one after the other. -/
theorem writes_mapM {render : Field → Render Markup} {inPlace inner : Field → List String}
    {fs : List Field}
    (h : ∀ f ∈ fs, ∀ parts m parts', (render f).run parts = (m, parts') →
      Writes component (inPlace f) (inner f) [m] parts parts')
    {ms : List Markup} (hrun : (fs.mapM render).run parts = (ms, parts')) :
    Writes component (fs.flatMap inPlace) (fs.flatMap inner) ms parts parts' := by
  induction fs generalizing parts ms with
  | nil =>
    obtain ⟨rfl, rfl⟩ := run_pure_eq_iff.mp hrun
    exact .nil parts
  | cons f rest ih =>
    obtain ⟨m, mid, tail, hm, htail, rfl⟩ := run_mapM_cons_eq_iff.mp hrun
    rw [List.forall_mem_cons] at h
    exact (h.1 _ _ _ hm).append (ih h.2 htail)

/-- A list is written with the lines of the fields in its items. There are no fields where it has no
children. -/
theorem perm_texts_listElement_of_run {render : Field → Render Markup} {f : Field}
    {fields : List Markup} (hrun : (f.children.mapM render).run parts = (fields, parts'))
    (p : FieldPath) (handles : Handles) :
    (listElement f p handles fields).texts.Perm
      ((listElement f p handles []).texts ++ allTexts fields) := by
  have hperm := perm_texts_listElement f p handles fields
  by_cases hnone : f.children.isEmpty = true
  · rw [List.isEmpty_iff.mp hnone] at hrun
    obtain ⟨rfl, -⟩ := run_pure_eq_iff.mp hrun
    rwa [if_pos hnone] at hperm
  · rwa [if_neg hnone] at hperm

/-- A field of an item is written in its place, or handed on to an inner component. -/
theorem writes_itemField (f : Field) :
    ∀ within parent parts m parts',
      (itemField component within parent f).run parts = (m, parts') →
        Writes component (itemTexts within parent f) (innerTexts parent f) [m] parts parts' := by
  induction f using Field.induction with
  | mk spec children ih =>
    intro within parent parts m parts' h
    cases itemRun_of_run h with
    | note htype =>
      rw [itemTexts_of_unrecognized htype,
        innerTexts_of_ne_array (Field.kind?_ne_array_of_unrecognized htype)]
      exact .here (.unsupported _ _) parts
    | value htype hkind =>
      rw [itemTexts_of_known htype hkind,
        innerTexts_of_ne_array (Field.kind?_ne_array_of_known htype hkind)]
      exact .here _ parts
    | @list name fields inside hkind hfree hfields =>
      have hname : IsInnerNameOf component name := by
        obtain ⟨shown, attributes, hm, hshown⟩ := exists_name_of_run hkind h
        obtain ⟨rfl, -⟩ := Markup.void.inj hm
        exact hshown
      rw [itemTexts_of_array hkind, innerTexts_of_array hkind]
      have hbelow := writes_mapM (fun c hc => ih c hc _ _) hfields
      obtain ⟨new, hnew, hinner⟩ := hbelow.inner
      refine ⟨?_, new ++ [⟨name, listElement ⟨spec, children⟩ (.variable "path") .own fields⟩],
        ?_, ?_⟩
      · rw [allTexts_cons, allTexts_nil, List.append_nil]
        exact .cons hname (.refl _)
      · rw [hnew, List.append_assoc]
      · -- the component is finished behind those that are inside it
        rw [List.flatMap_append, List.flatMap_singleton]
        have hlist := perm_texts_listElement_of_run hfields (.variable "path") .own
        have hown := ((AreWith.refl _).append hbelow.inPlace).of_perm hlist
        exact (hinner.append hown).trans_perm List.perm_append_comm

/-- A field at the top is written in the main component. -/
theorem writes_topField {handles : List (String × Handles)} {f : Field} {m : Markup}
    (h : (topField component handles f).run parts = (m, parts')) :
    Writes component (topTexts handles f) (topInnerTexts f) [m] parts parts' := by
  cases topRun_of_run h with
  | note htype =>
    rw [topTexts_of_unrecognized htype,
      topInnerTexts_of_ne_array (Field.kind?_ne_array_of_unrecognized htype)]
    exact .here (.unsupported _ _) parts
  | value htype hkind =>
    rw [topTexts_of_known htype hkind,
      topInnerTexts_of_ne_array (Field.kind?_ne_array_of_known htype hkind)]
    exact .here _ parts
  | list hkind hfields =>
    rw [topTexts_of_array hkind, topInnerTexts_of_array hkind]
    have hbelow := writes_mapM (fun c _ => writes_itemField c _ _) hfields
    refine ⟨?_, hbelow.inner⟩
    rw [allTexts_cons, allTexts_nil, List.append_nil]
    have hlist := perm_texts_listElement_of_run hfields (.literal f.name) (Handles.ofList handles f)
    exact ((AreWith.refl _).append hbelow.inPlace).of_perm hlist

end

/-! ## The file -/

theorem perm_texts_spaced (ms : List Markup) :
    (allTexts (spaced ms)).Perm (List.replicate ms.length "" ++ allTexts ms) := by
  induction ms with
  | nil => exact .refl _
  | cons m rest ih =>
    rw [List.perm_iff_count] at ih ⊢
    intro text
    have hrest := ih text
    simp only [spaced, allTexts_cons, texts, List.length_cons, List.replicate_succ,
      List.count_append, List.count_cons, List.count_nil] at hrest ⊢
    omega

/-- The page has the lines of the fields among its own, and an empty line for each field. -/
theorem perm_texts_pageMarkup (title : String) (fields : List Markup) :
    (pageMarkup title fields).texts.Perm
      ((pageMarkup title []).texts ++ List.replicate fields.length "" ++ allTexts fields) := by
  have hspaced := perm_texts_spaced fields
  rw [List.perm_iff_count] at hspaced ⊢
  intro text
  have hfields := hspaced text
  simp only [pageMarkup, texts, spaced, allTexts_append, allTexts_cons, allTexts_nil,
    List.count_append, List.count_cons, List.count_nil] at hfields ⊢
  omega

/-- The lines around the markup of an inner component, and the empty line behind it. -/
def SubComponent.frame (name : String) : List Line := SubComponent.lines ⟨name, .blank⟩

theorem SubComponent.perm_texts (c : SubComponent) :
    ((c.lines ++ [Line.blank]).map Line.text).Perm
      ((frame c.name).map Line.text ++ c.body.texts) := by
  rw [List.perm_iff_count]
  intro text
  simp only [frame, SubComponent.lines, List.map_append, map_text_lines, texts, List.map_cons,
    List.map_nil, List.count_append, List.count_cons, List.count_nil, Line.blank]
  omega

section
variable (ids : Identifiers) (form : Form)

/-- The lines of the main component without its fields. -/
def mainFrame : List Line :=
  mainLines ids form (Usage.ofFields false form.fields) [] ++
    List.replicate (shownFields ids form).length Line.blank

/-- The lines of the file without the markup of fields. -/
def frame : List Line :=
  fileImports ids (Usage.ofFields false form.fields) ++ [Line.blank] ++ propsLines ids ++
    [Line.blank] ++ (innerComponents ids form).flatMap (fun c => SubComponent.frame c.name) ++
    mainFrame ids form ++ [Line.blank, ⟨0, "export default " ++ ids.componentName ++ ";"⟩]

theorem perm_texts_mainLines :
    ((mainLines ids form (Usage.ofFields false form.fields) (shownFields ids form)).map
      Line.text).Perm ((mainFrame ids form).map Line.text ++ allTexts (shownFields ids form)) := by
  have hpage := perm_texts_pageMarkup form.title (shownFields ids form)
  have hblank : ∀ n, (List.replicate n Line.blank).map Line.text = List.replicate n "" :=
    fun n => List.map_replicate
  rw [List.perm_iff_count] at hpage ⊢
  intro text
  have hfields := hpage text
  simp only [mainFrame, mainLines, List.map_append, List.map_cons, List.map_nil, map_text_lines,
    hblank, List.count_append, List.count_cons, List.count_nil] at hfields ⊢
  omega

/-- What the fields of a form bring to the main component and to the inner components. -/
theorem texts_rendered :
    AreWith ids.componentName (allTexts (shownFields ids form))
        (form.fields.flatMap (topTexts (arrayHandles form.fields))) ∧
      AreWith ids.componentName ((innerComponents ids form).flatMap fun c => c.body.texts)
        (form.fields.flatMap topInnerTexts) := by
  obtain ⟨ms, parts, hrun, hrendered⟩ := exists_run_ofFields ids form.fields
  have hall := writes_mapM (fun f _ _ _ _ => writes_topField) hrun
  obtain ⟨new, hnew, hinner⟩ := hall.inner
  have hfields : shownFields ids form = ms := by rw [shownFields, hrendered]
  have hcomponents : innerComponents ids form = new := by
    rw [innerComponents, hrendered]
    exact hnew
  rw [hfields, hcomponents]
  exact ⟨hall.inPlace, hinner⟩

/-- **The lines of a file.** Up to their order these are the lines of its frame, the lines that each
field brings, and the opening tags of inner components. -/
theorem texts_fileLines :
    AreWith ids.componentName ((fileLines ids form).map Line.text)
      ((frame ids form).map Line.text ++ (form.fields.flatMap (topTexts (arrayHandles form.fields)) ++
        form.fields.flatMap topInnerTexts)) := by
  obtain ⟨hmain, hinner⟩ := texts_rendered ids form
  refine ((AreWith.refl ((frame ids form).map Line.text)).append (hmain.append hinner)).of_perm ?_
  have hcomponents : (((innerComponents ids form).flatMap fun c => c.lines ++ [Line.blank]).map
      Line.text).Perm
        (((innerComponents ids form).flatMap fun c => SubComponent.frame c.name).map Line.text ++
          (innerComponents ids form).flatMap fun c => c.body.texts) := by
    rw [List.map_flatMap, List.map_flatMap]
    refine List.Perm.trans ?_ (List.flatMap_append_perm _ _ _).symm
    exact List.Perm.flatMap_left _ fun c _ => c.perm_texts
  have hlines := perm_texts_mainLines ids form
  rw [List.perm_iff_count] at hcomponents hlines ⊢
  intro text
  have hcount := hcomponents text
  have hcount' := hlines text
  simp only [fileLines, frame, innerComponents, shownFields, List.map_append, List.map_cons,
    List.map_nil, List.count_append, List.count_cons, List.count_nil, Line.blank]
    at hcount hcount' ⊢
  omega

end

end WebForm.Component
