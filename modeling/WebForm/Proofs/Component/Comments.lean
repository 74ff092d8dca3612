import WebForm.Proofs.Artifact.Unknown
import WebForm.Proofs.Component.Frame
import WebForm.Proofs.Source.Comment
import WebForm.Proofs.Text.Bytes
/-!
# Comments in a component file

The only comments between the elements of a component file are those in place of unknown fields.
-/

set_option autoImplicit false

namespace WebForm

open Source Script

/-! ## Comments in the component file -/

namespace Component

open Markup Identifier

/-- A line that is no comment between elements. -/
def Uncommented (text : String) : Prop := isElementComment text = false

instance : DecidablePred Uncommented := fun text =>
  inferInstanceAs (Decidable (isElementComment text = false))

/-- An attribute is no comment, whatever its value is. -/
theorem uncommented_write {a : Attribute} (h : startsUncommented a.opening = true) :
    Uncommented a.write := by
  obtain ⟨rest, hwrite⟩ := a.exists_write_eq
  rw [hwrite]
  exact isElementComment_append h rest

/-- A text of the form starts no comment: if it has a brace, it stands in a string between
braces. -/
theorem uncommented_childText_append (s : String) {rest : String}
    (h : rest.toList.head? ≠ some '\x7b') : Uncommented (childText s ++ rest) := by
  rcases childText_cases s with ⟨hs, hbrace, -⟩ | hs
  · rw [hs, Uncommented, isElementComment, Bool.eq_false_iff, ne_eq, List.isPrefixOf_iff_prefix]
    rintro ⟨tail, htail⟩
    rw [String.toList_append] at htail
    cases hchars : s.toList with
    | nil =>
      rw [hchars, List.nil_append] at htail
      exact h (htail ▸ rfl)
    | cons c cs =>
      rw [hchars] at htail hbrace
      obtain rfl : '\x7b' = c := (List.cons.inj htail).1
      exact hbrace List.mem_cons_self
  · have hquoted : braced (quote s) = "\x7b'" ++ (escapeString s ++ "'" ++ "\x7d") := by
      have hopen : "\x7b'" = "\x7b" ++ "'" := rfl
      rw [braced, quote, hopen]
      simp only [String.append_assoc]
    rw [hs, hquoted, String.append_assoc]
    exact isElementComment_append (by decide) _

@[simp] theorem uncommented_childText (s : String) : Uncommented (childText s) := by
  have hall : Uncommented (childText s ++ "") := uncommented_childText_append s (by decide)
  rwa [String.append_empty] at hall

/-! ### Pieces of markup

A tag is no comment, so that an element has only those comments that are inside it. -/

theorem uncommented_tag (rest : String) : Uncommented ("<" ++ rest) :=
  isElementComment_append (by decide) rest

theorem uncommented_closing (tag : String) : Uncommented (closing tag) := by
  rw [closing, String.append_assoc]
  exact isElementComment_append (by decide) _

section
variable {tag head tail : String}

theorem uncommented_block (hhead : Uncommented head) (htail : Uncommented tail) {steps : Nat}
    {inner : List Markup} :
    (Markup.block steps head inner tail).Each Uncommented ↔ EachOf Uncommented inner := by
  rw [each_block]
  exact ⟨fun h => h.2.1, fun h => ⟨hhead, h, htail⟩⟩

@[simp] theorem uncommented_void {attributes : List Markup} :
    (Markup.void tag attributes).Each Uncommented ↔ EachOf Uncommented attributes := by
  rw [each_void]
  exact ⟨fun h => h.2.1, fun h => ⟨uncommented_tag tag, h, by decide⟩⟩

@[simp] theorem uncommented_stacked {attributes content : List Markup} :
    (Markup.stacked tag attributes content).Each Uncommented ↔
      EachOf Uncommented attributes ∧ EachOf Uncommented content := by
  rw [each_stacked]
  exact ⟨fun h => ⟨h.2.1, h.2.2.2.1⟩,
    fun h => ⟨uncommented_tag tag, h.1, by decide, h.2, uncommented_closing tag⟩⟩

@[simp] theorem uncommented_inline {attributes : List Attribute} {content : List Markup} :
    (Markup.inline tag attributes content).Each Uncommented ↔ EachOf Uncommented content := by
  rw [each_inline, String.append_assoc, String.append_assoc]
  exact ⟨fun h => h.2.1, fun h => ⟨uncommented_tag _, h, uncommented_closing tag⟩⟩

@[simp] theorem uncommented_mark : (Markup.mark tag).Each Uncommented := by
  rw [each_mark, String.append_assoc]
  exact uncommented_tag _

@[simp] theorem uncommented_label {s : String} : (Markup.label tag s).Each Uncommented := by
  rw [each_label]
  simp only [String.append_assoc]
  exact uncommented_tag _

end

/-! ### Elements of fields -/

@[simp] theorem uncommented_sizeAttribute (compact : Bool) :
    EachOf Uncommented (sizeAttribute compact) := by
  cases compact with
  | false => exact eachOf_nil
  | true => simp (disch := decide) [sizeAttribute, uncommented_write]

@[simp] theorem uncommented_helperAttribute (spec : FieldSpec) :
    EachOf Uncommented (helperAttribute spec) := by
  rw [helperAttribute]
  cases spec.helperText with
  | none => exact eachOf_nil
  | some text => simp (disch := (dsimp only [Attribute.opening]; decide)) [uncommented_write]

@[simp] theorem uncommented_wrapped {spec : FieldSpec} {p : FieldPath} {content : List Markup} :
    (wrapped spec p content).Each Uncommented ↔ EachOf Uncommented content := by
  have hfield {inner : List Markup} : (Markup.block 1 "field=\x7b" inner "\x7d").Each Uncommented ↔
      EachOf Uncommented inner := uncommented_block (by decide) (by decide)
  simp (disch := (dsimp only [Attribute.opening]; decide)) [wrapped, wrapperAttributes,
    requiredAttribute, uncommented_write, hfield]

@[simp] theorem uncommented_controlElement (f : Field) (control : Control) (p : FieldPath)
    (compact : Bool) : EachOf Uncommented (controlElement f control p compact) := by
  have hrender {inner : List Markup} :
      (Markup.block 2 "render=\x7b(\x7b field: controllerField \x7d) => (" inner ")\x7d").Each
        Uncommented ↔ EachOf Uncommented inner := uncommented_block (by decide) (by decide)
  have hradio : EachOf Uncommented (f.options.map radioItem) := by
    rw [eachOf_iff_forall_mem, List.forall_mem_map]
    intro option _
    simp [radioItem]
  cases control <;>
    simp (disch := (dsimp only [Attribute.opening]; decide)) [controlElement, controlled,
      placeholderAttribute, uncommented_write, hrender, hradio]

@[simp] theorem uncommented_optionsAttribute (options : List String) :
    (optionsAttribute options).Each Uncommented := by
  rw [optionsAttribute]
  split
  · rw [each_attr]
    exact uncommented_write (by decide)
  · rw [uncommented_block (by decide) (by decide), eachOf_iff_forall_mem, List.forall_mem_map]
    intro option _
    simp only [each_text, String.append_assoc]
    exact isElementComment_append (by decide) _

@[simp] theorem uncommented_leafElement (f : Field) (kind : FieldKind) (p : FieldPath)
    (compact : Bool) : (leafElement f kind p compact).Each Uncommented := by
  rw [leafElement]
  split
  · simp (disch := (dsimp only [Attribute.opening]; decide)) [selectElement, requiredAttribute,
      placeholderAttribute, uncommented_write]
  · simp

/-! ### Lists -/

@[simp] theorem uncommented_button (onClick palette : String) {text : String} :
    (button onClick palette text).Each Uncommented ↔ Uncommented text := by
  simp (disch := (dsimp only [Attribute.opening]; decide)) [button, uncommented_write]

/-- An expression of the generated code, between braces. -/
theorem uncommented_expression {name : String} (h : isIdentifier name = true) (rest : String) :
    Uncommented ("\x7b" ++ name ++ rest) := by
  rw [Uncommented, isElementComment, Bool.eq_false_iff, ne_eq, List.isPrefixOf_iff_prefix]
  rintro ⟨tail, htail⟩
  rw [isIdentifier] at h
  cases hname : name.toList with
  | nil =>
    rw [hname] at h
    cases h
  | cons c cs =>
    rw [hname, Bool.and_eq_true] at h
    rw [String.toList_append, String.toList_append, hname] at htail
    -- a name does not start like the rest of a comment
    obtain rfl : '/' = c := (List.cons.inj (List.cons.inj htail).2).1
    exact absurd h.1 (by decide)

theorem uncommented_listElement (f : Field) (p : FieldPath) {handles : Handles}
    (h : handles.Nameable) : (listElement f p handles []).Each Uncommented := by
  have hcount : Uncommented (braced (handles.fields ++ ".length") ++ " item" ++
      braced (handles.fields ++ ".length !== 1 ? 's' : ''")) := by
    have hinside : braced (handles.fields ++ ".length") ++ " item" ++
        braced (handles.fields ++ ".length !== 1 ? 's' : ''") =
          "\x7b" ++ handles.fields ++ (".length" ++ ("\x7d" ++ (" item" ++
            braced (handles.fields ++ ".length !== 1 ? 's' : ''")))) := by
      simp only [braced, String.append_assoc]
    rw [hinside]
    exact uncommented_expression h.fields _
  have hadd : Uncommented ("Add " ++ childText f.label ++ " Item") := by
    rw [String.append_assoc]
    exact isElementComment_append (by decide) _
  have hitem : Uncommented (childText f.label ++ " #" ++ braced "index + 1") := by
    rw [String.append_assoc]
    exact uncommented_childText_append f.label (by decide)
  have hnote : Uncommented ("No items added yet. Click \"Add " ++ childText f.label ++
      " Item\" to create the first item.") := by
    rw [String.append_assoc]
    exact isElementComment_append (by decide) _
  have hitems {inner : List Markup} :
      (Markup.block 1 ("\x7b" ++ handles.fields ++ ".map((item, index) => (") inner "))\x7d").Each
        Uncommented ↔ EachOf Uncommented inner :=
    uncommented_block (uncommented_expression h.fields _) (by decide)
  have hnone {inner : List Markup} :
      (Markup.block 1 ("\x7b" ++ handles.fields ++ ".length === 0 && (") inner ")\x7d").Each
        Uncommented ↔ EachOf Uncommented inner :=
    uncommented_block (uncommented_expression h.fields _) (by decide)
  have hblank : Uncommented "" := by decide
  have hremove : Uncommented "Remove" := by decide
  by_cases hchildren : f.children.isEmpty = true <;>
    simp (disch := (dsimp only [Attribute.opening]; decide)) [listElement, listHeader,
      primitiveItem, objectItem, removeButton, emptyNote, uncommented_write, hchildren, hcount, hadd,
      hitem, hnote, hitems, hnone, hblank, hremove]

/-- What an inner component is handed is no comment. -/
theorem uncommented_handedOn (p : FieldPath) : EachOf Uncommented (handedOn p) := by
  simp (disch := (dsimp only [Attribute.opening]; decide)) [handedOn, uncommented_write]

/-! ### The frame -/

theorem uncommented_of_frameText {ids : Identifiers} {form : Form} {text : String}
    (h : FrameText ids form text) : Uncommented text := by
  cases h with
  | constant h =>
    have hall : ∀ text ∈ frameConstants, Uncommented text := by
      simp only [Uncommented, isElementComment, ← Text.chars_eq_toList]
      decide
    exact hall _ h
  | title => exact uncommented_childText form.title
  | value h =>
    rw [String.append_assoc, String.append_assoc]
    exact (not_comment_propertyKey _ _).2
  | schemaImport | props | propsMember | innerProps | innerComponent | component | formCall
  | resolver | hookCall | hookList | submit | exported =>
    simp only [String.append_assoc]
    exact isElementComment_append (by decide) _

/-! ## Comments of fields -/

/-- The comments between elements among some lines. -/
def elementComments (texts : List String) : List String := texts.filter isElementComment

theorem elementComments_append (texts texts' : List String) :
    elementComments (texts ++ texts') = elementComments texts ++ elementComments texts' :=
  List.filter_append _ _

theorem elementComments_note (n : Note) : elementComments [n.element] = [n.element] :=
  List.filter_cons_of_pos n.isElementComment_element

theorem elementComments_of_uncommented {texts : List String}
    (h : ∀ text ∈ texts, Uncommented text) : elementComments texts = [] := by
  rw [elementComments, List.filter_eq_nil_iff]
  intro text htext
  rw [h text htext]
  exact Bool.false_ne_true

theorem elementComments_flatMap (fs : List Field) (texts : Field → List String) :
    elementComments (fs.flatMap texts) = fs.flatMap fun f => elementComments (texts f) :=
  List.filter_flatMap

/-- The path that a comment gives to a field of an item. -/
def displayPath (parent name : String) : String := parent ++ "." ++ name

/-- The comments that fields bring to two places, in one list. -/
theorem perm_elementComments_flatMap {fs : List Field} {here inner : Field → List String}
    {notes : Field → List Note}
    (h : ∀ f ∈ fs, (elementComments (here f ++ inner f)).Perm ((notes f).map Note.element)) :
    (elementComments (fs.flatMap here ++ fs.flatMap inner)).Perm
      ((fs.flatMap notes).map Note.element) := by
  rw [elementComments_append, elementComments_flatMap, elementComments_flatMap, List.map_flatMap]
  refine (List.flatMap_append_perm _ _ _).trans (List.Perm.flatMap_left _ fun f hf => ?_)
  rw [← elementComments_append]
  exact h f hf

/-- The comments that a field of an item brings, in its place or in inner components, are those of
the unknown fields that are reached in it. -/
theorem perm_elementComments_item (f : Field) : ∀ within parent,
    (elementComments (itemTexts within parent f ++ innerTexts parent f)).Perm
      ((Field.unknownIn displayPath (displayPath parent f.name) f).map Note.element) := by
  induction f using Field.induction with
  | mk spec children ih =>
    intro within parent
    cases htype : spec.type with
    | unrecognized raw =>
      have htexts : itemTexts within parent ⟨spec, children⟩ ++ innerTexts parent ⟨spec, children⟩ =
          [Note.element ⟨raw, displayPath parent spec.name⟩] := by
        rw [itemTexts_of_unrecognized htype,
          innerTexts_of_ne_array (Field.kind?_ne_array_of_unrecognized htype)]
        rfl
      rw [htexts, elementComments_note]
      exact .of_eq (congrArg (List.map Note.element) (Field.unknownIn_of_unrecognized htype)).symm
    | known kind =>
      by_cases hkind : kind = .array
      · have harray : (Field.mk spec children).kind? = some .array :=
          Field.kind?_eq_some_iff.mpr (hkind ▸ htype)
        have hown : elementComments (itemTexts within parent ⟨spec, children⟩ ++
            (listElement ⟨spec, children⟩ (.variable "path") .own []).texts) = [] := by
          rw [itemTexts_of_array harray]
          refine elementComments_of_uncommented ?_
          simp only [List.forall_mem_append, List.forall_mem_singleton]
          exact ⟨⟨uncommented_handedOn _, by decide⟩,
            uncommented_listElement _ _ Handles.nameable_own⟩
        rw [innerTexts_of_array harray, Field.unknownIn_of_array harray, ← List.append_assoc,
          ← List.append_assoc, List.append_assoc, elementComments_append, hown, List.nil_append]
        exact perm_elementComments_flatMap fun c hc => ih c hc _ _
      · rw [itemTexts_of_known htype hkind, Field.unknownIn_of_known htype hkind,
          innerTexts_of_ne_array (Field.kind?_ne_array_of_known htype hkind), List.append_nil,
          elementComments_of_uncommented (uncommented_leafElement _ _ _ _)]
        exact .refl _

theorem perm_elementComments_top (fields : List Field) (f : Field) :
    (elementComments (topTexts (arrayHandles fields) f ++ topInnerTexts f)).Perm
      ((Field.unknownIn displayPath f.name f).map Note.element) := by
  cases htype : f.spec.type with
  | unrecognized raw =>
    have htexts : topTexts (arrayHandles fields) f ++ topInnerTexts f =
        [Note.element ⟨raw, f.name⟩] := by
      rw [topTexts_of_unrecognized htype,
        topInnerTexts_of_ne_array (Field.kind?_ne_array_of_unrecognized htype)]
      rfl
    rw [htexts, elementComments_note]
    exact .of_eq (congrArg (List.map Note.element) (Field.unknownIn_of_unrecognized htype)).symm
  | known kind =>
    by_cases hkind : kind = .array
    · have harray : f.kind? = some .array := Field.kind?_eq_some_iff.mpr (hkind ▸ htype)
      have hown : elementComments (listElement f (.literal f.name)
          (Handles.ofList (arrayHandles fields) f) []).texts = [] :=
        elementComments_of_uncommented
          (uncommented_listElement _ _ (Handles.nameable_ofList fields f))
      rw [topTexts_of_array harray, topInnerTexts_of_array harray, Field.unknownIn_of_array harray,
        List.append_assoc, elementComments_append, hown, List.nil_append]
      exact perm_elementComments_flatMap fun c _ => perm_elementComments_item c _ _
    · rw [topTexts_of_known htype hkind, Field.unknownIn_of_known htype hkind,
        topInnerTexts_of_ne_array (Field.kind?_ne_array_of_known htype hkind), List.append_nil,
        elementComments_of_uncommented (uncommented_leafElement _ _ _ _)]
      exact .refl _

/-- **The comments of a component file** are those of the unknown fields that are reached. -/
theorem perm_elementComments_fileLines (ids : Identifiers) (form : Form) :
    (elementComments ((fileLines ids form).map Line.text)).Perm
      ((form.unknown displayPath).map Note.element) := by
  obtain ⟨names, -, hperm⟩ := texts_fileLines ids form
  have htags : elementComments (names.map ("<" ++ ·)) = [] :=
    elementComments_of_uncommented (List.forall_mem_map.mpr fun name _ => uncommented_tag name)
  have hframe : elementComments ((frame ids form).map Line.text) = [] :=
    elementComments_of_uncommented
      (List.forall_mem_map.mpr fun l hl => uncommented_of_frameText (framed_frame l hl))
  have hall := hperm.filter isElementComment
  rw [← elementComments, ← elementComments, elementComments_append, elementComments_append, htags,
    hframe, List.nil_append, List.nil_append] at hall
  exact hall.trans (perm_elementComments_flatMap fun f _ => perm_elementComments_top form.fields f)

end Component

end WebForm
