import WebForm.Proofs.Component.Frame
import WebForm.Proofs.Source.LineEnding
import WebForm.Proofs.Text.Bytes
/-!
# Line endings of a component file

Where texts of a form can bring line breaks of their own to a component file. Between elements a
text is written as it is unless it has a character of the markup, and inside the items of a list
the names of fields are written into template literals, which may go over lines. All other texts
are literals or values of attributes, which escape line breaks.
-/

set_option autoImplicit false

namespace WebForm

/-- The texts of a field that a control shows between elements. -/
def Control.shownTexts (f : Field) : Control → List String
  | .checkbox | .fieldArray => [f.label]
  | .radioGroup => f.options
  | .input _ | .textArea | .select => []

/-- The texts of a field that are shown between elements. -/
def Field.shownTexts (f : Field) : List String :=
  match f.kind? with
  | some kind => kind.control.shownTexts f
  | none => []

theorem Field.shownTexts_of_kind {f : Field} {kind : FieldKind} (h : f.kind? = some kind) :
    f.shownTexts = kind.control.shownTexts f := by
  rw [shownTexts, h]

namespace Component

open Source Identifier Markup

section
variable {ending : LineEnding}

/-! ## Texts and paths -/

@[simp] theorem unbroken_braced {code : String} : Unbroken (braced code) ↔ Unbroken code := by
  rw [braced, unbroken_append, unbroken_append]
  exact ⟨fun h => h.1.2, fun h => ⟨⟨unbroken_ofList rfl, h⟩, unbroken_ofList rfl⟩⟩

/-- The value of an attribute has no line breaks, whatever it says. -/
@[simp] theorem unbroken_attributeText (s : String) : Unbroken (attributeText s) := by
  rw [attributeText]
  split
  · exact unbroken_braced.mpr (unbroken_quote s)
  · next hnone =>
    rw [unbroken_append, unbroken_append]
    refine ⟨⟨unbroken_ofList rfl, fun c hc => ?_⟩, unbroken_ofList rfl⟩
    have hc' := List.any_eq_false.mp (Bool.eq_false_iff.mpr hnone) c hc
    simp only [Bool.or_eq_true, beq_iff_eq, not_or] at hc'
    exact ⟨hc'.1.2, hc'.2⟩

/-- A literal is longer than what it says. -/
theorem braced_quote_ne (s : String) : braced (quote s) ≠ s := by
  have hchar : ∀ c, 1 ≤ (escapeStringChar c).length := by
    intro c
    rw [escapeStringChar.eq_def]
    split <;> simp
  have hchars : ∀ cs : List Char, cs.length ≤ (cs.flatMap escapeStringChar).length := by
    intro cs
    induction cs with
    | nil => exact Nat.le_refl 0
    | cons c cs ih =>
      have hc := hchar c
      rw [List.flatMap_cons, List.length_cons, List.length_append]
      omega
  intro heq
  have hlength := congrArg (fun t : String => t.toList.length) heq
  have hinside := hchars s.toList
  simp only [braced, quote, String.toList_append, toList_escapeString,
    List.length_append] at hlength
  have hone : "\x7b".toList.length = 1 := rfl
  omega

/-- A text between elements has its own line breaks, unless it is written as a literal. -/
theorem keeps_childText {s : String} :
    ending.Keeps (childText s) ↔ (childText s = s → ending.Keeps s) := by
  rcases childText_cases s with ⟨hs, -⟩ | hs
  · rw [hs]
    exact ⟨fun h _ => h, fun h => h rfl⟩
  · rw [hs]
    refine iff_of_true (LineEnding.keeps_of_unbroken ?_) fun h => absurd h (braced_quote_ne s)
    exact unbroken_braced.mpr (unbroken_quote s)

theorem keeps_braced {code : String} : ending.Keeps (braced code) ↔ ending.Keeps code := by
  rw [braced, LineEnding.keeps_append_right (unbroken_ofList rfl),
    LineEnding.keeps_append_left (unbroken_ofList rfl)]

namespace FieldPath

/-- Which line breaks a path has does not depend on where it is written. -/
theorem keeps_inAttribute {p : FieldPath} :
    ending.Keeps p.inAttribute ↔ ending.Keeps p.inCall := by
  cases p with
  | literal path =>
    exact iff_of_true (LineEnding.keeps_of_unbroken (unbroken_attributeText path))
      (LineEnding.keeps_of_unbroken (unbroken_quote path))
  | «variable» name => exact keeps_braced
  | template body => exact keeps_braced

theorem keeps_template {body : String} :
    ending.Keeps (template body).inCall ↔ ending.Keeps body := by
  rw [inCall, LineEnding.keeps_append_right (unbroken_ofList rfl),
    LineEnding.keeps_append_left (unbroken_ofList rfl)]

theorem keeps_body_literal {path : String} :
    ending.Keeps (literal path).body ↔ ending.Keeps path := keeps_escapeTemplate

theorem keeps_body_item {p : FieldPath} : ending.Keeps p.item.body ↔ ending.Keeps p.body := by
  rw [item, body, LineEnding.keeps_append_right (by decide),
    LineEnding.keeps_append_right (unbroken_ofList rfl)]

theorem keeps_item_inCall {p : FieldPath} : ending.Keeps p.item.inCall ↔ ending.Keeps p.body :=
  keeps_template.trans keeps_body_item

/-- The path of a field of an item has the line breaks of the path of the item and of the name. -/
theorem keeps_child {p : FieldPath} {name : String} :
    ending.Keeps (p.child name).inCall ↔ ending.Keeps p.body ∧ ending.Keeps name := by
  rw [child, keeps_template, LineEnding.keeps_append_append (unbroken_ofList rfl) (by decide),
    keeps_escapeTemplate]

end FieldPath

/-! ## Attributes -/

section
variable {name value : String}

theorem unbroken_constant (hname : Unbroken name) (hvalue : Unbroken value) :
    Unbroken (Attribute.constant name value).write := by
  rw [Attribute.write, unbroken_append, unbroken_append, unbroken_append]
  exact ⟨⟨⟨hname, unbroken_ofList rfl⟩, hvalue⟩, unbroken_ofList rfl⟩

theorem unbroken_text (hname : Unbroken name) : Unbroken (Attribute.text name value).write := by
  rw [Attribute.write, unbroken_append, unbroken_append]
  exact ⟨⟨hname, unbroken_ofList rfl⟩, unbroken_attributeText value⟩

theorem unbroken_code (hname : Unbroken name) (hvalue : Unbroken value) :
    Unbroken (Attribute.code name value).write := by
  rw [Attribute.write, unbroken_append, unbroken_append]
  exact ⟨⟨hname, unbroken_ofList rfl⟩, unbroken_braced.mpr hvalue⟩

theorem unbroken_binding (hname : Unbroken name) : Unbroken (Attribute.binding name).write :=
  unbroken_code hname hname

theorem keeps_constant (hname : Unbroken name) (hvalue : Unbroken value) :
    ending.Keeps (Attribute.constant name value).write :=
  LineEnding.keeps_of_unbroken (unbroken_constant hname hvalue)

theorem keeps_text (hname : Unbroken name) : ending.Keeps (Attribute.text name value).write :=
  LineEnding.keeps_of_unbroken (unbroken_text hname)

theorem keeps_code (hname : Unbroken name) (hvalue : Unbroken value) :
    ending.Keeps (Attribute.code name value).write :=
  LineEnding.keeps_of_unbroken (unbroken_code hname hvalue)

theorem keeps_binding (hname : Unbroken name) : ending.Keeps (Attribute.binding name).write :=
  keeps_code hname hname

theorem keeps_path {p : FieldPath} (hname : Unbroken name) :
    ending.Keeps (Attribute.path name p).write ↔ ending.Keeps p.inCall := by
  rw [Attribute.write, String.append_assoc, LineEnding.keeps_append_left hname,
    LineEnding.keeps_append_left (unbroken_ofList rfl), FieldPath.keeps_inAttribute]

theorem keeps_register {p : FieldPath} :
    ending.Keeps (Attribute.register p).write ↔ ending.Keeps p.inCall := by
  rw [Attribute.write, keeps_braced, LineEnding.keeps_append_right (unbroken_ofList rfl),
    LineEnding.keeps_append_left (unbroken_ofList rfl)]

end

/-! ## Pieces of markup -/

section
variable {tag head tail : String}

theorem keeps_block (hhead : Unbroken head) (htail : Unbroken tail) {steps : Nat}
    {inner : List Markup} :
    (Markup.block steps head inner tail).Each ending.Keeps ↔ EachOf ending.Keeps inner := by
  rw [each_block]
  exact ⟨fun h => h.2.1, fun h => ⟨LineEnding.keeps_of_unbroken hhead, h,
    LineEnding.keeps_of_unbroken htail⟩⟩

theorem unbroken_opening (htag : Unbroken tag) : Unbroken ("<" ++ tag) :=
  unbroken_append.mpr ⟨unbroken_ofList rfl, htag⟩

theorem unbroken_closing (htag : Unbroken tag) : Unbroken (closing tag) := by
  rw [closing, unbroken_append, unbroken_append]
  exact ⟨⟨unbroken_ofList rfl, htag⟩, unbroken_ofList rfl⟩

theorem keeps_void (htag : Unbroken tag) {attributes : List Markup} :
    (Markup.void tag attributes).Each ending.Keeps ↔ EachOf ending.Keeps attributes := by
  rw [each_void]
  exact ⟨fun h => h.2.1, fun h => ⟨LineEnding.keeps_of_unbroken (unbroken_opening htag), h,
    LineEnding.keeps_of_unbroken (unbroken_ofList rfl)⟩⟩

theorem keeps_stacked (htag : Unbroken tag) {attributes content : List Markup} :
    (Markup.stacked tag attributes content).Each ending.Keeps ↔
      EachOf ending.Keeps attributes ∧ EachOf ending.Keeps content := by
  rw [each_stacked]
  exact ⟨fun h => ⟨h.2.1, h.2.2.2.1⟩,
    fun h => ⟨LineEnding.keeps_of_unbroken (unbroken_opening htag), h.1,
      LineEnding.keeps_of_unbroken (unbroken_ofList rfl), h.2,
      LineEnding.keeps_of_unbroken (unbroken_closing htag)⟩⟩

theorem keeps_inline (htag : Unbroken tag) {attributes : List Attribute}
    (hattributes : ∀ a ∈ attributes, Unbroken a.write) {content : List Markup} :
    (Markup.inline tag attributes content).Each ending.Keeps ↔ EachOf ending.Keeps content := by
  have hinside : Unbroken (attributesText attributes) := by
    rw [attributesText, unbroken_join, List.forall_mem_map]
    intro a ha
    rw [unbroken_append]
    exact ⟨unbroken_ofList rfl, hattributes a ha⟩
  have hopen : Unbroken ("<" ++ tag ++ attributesText attributes ++ ">") := by
    rw [unbroken_append, unbroken_append]
    exact ⟨⟨unbroken_opening htag, hinside⟩, unbroken_ofList rfl⟩
  rw [each_inline]
  exact ⟨fun h => h.2.1, fun h => ⟨LineEnding.keeps_of_unbroken hopen, h,
    LineEnding.keeps_of_unbroken (unbroken_closing htag)⟩⟩

theorem keeps_mark (htag : Unbroken tag) : (Markup.mark tag).Each ending.Keeps := by
  rw [each_mark, LineEnding.keeps_append_right (unbroken_ofList rfl)]
  exact LineEnding.keeps_of_unbroken (unbroken_opening htag)

theorem keeps_label (htag : Unbroken tag) {s : String} :
    (Markup.label tag s).Each ending.Keeps ↔ ending.Keeps (childText s) := by
  have hopen : Unbroken ("<" ++ tag ++ ">") :=
    unbroken_append.mpr ⟨unbroken_opening htag, unbroken_ofList rfl⟩
  rw [each_label, LineEnding.keeps_append_right (unbroken_closing htag),
    LineEnding.keeps_append_left hopen]

end

/-! ## Elements of fields -/

@[simp] theorem keeps_sizeAttribute (compact : Bool) :
    EachOf ending.Keeps (sizeAttribute compact) := by
  cases compact with
  | false => exact eachOf_nil
  | true =>
    simp only [sizeAttribute, if_true, eachOf_cons, each_attr, eachOf_nil, and_true]
    exact keeps_constant (unbroken_ofList rfl) (unbroken_ofList rfl)

@[simp] theorem keeps_helperAttribute (spec : FieldSpec) :
    EachOf ending.Keeps (helperAttribute spec) := by
  rw [helperAttribute]
  cases spec.helperText with
  | none => exact eachOf_nil
  | some text =>
    simp only [Option.map_some, Option.toList_some, eachOf_cons, each_attr, eachOf_nil, and_true]
    exact keeps_text (unbroken_ofList rfl)

@[simp] theorem keeps_requiredAttribute (spec : FieldSpec) :
    (requiredAttribute spec).Each ending.Keeps := by
  rw [requiredAttribute, each_attr]
  refine keeps_code (unbroken_ofList rfl) ?_
  split <;> decide

@[simp] theorem keeps_placeholderAttribute (f : Field) :
    (placeholderAttribute f).Each ending.Keeps := by
  rw [placeholderAttribute, each_attr]
  exact keeps_text (unbroken_ofList rfl)

/-- A wrapper has the line breaks of its path, and of what is in it. -/
theorem keeps_wrapped {spec : FieldSpec} {p : FieldPath} {content : List Markup} :
    (wrapped spec p content).Each ending.Keeps ↔
      ending.Keeps p.inCall ∧ EachOf ending.Keeps content := by
  have hlabel : ending.Keeps (Attribute.text "label" spec.label).write :=
    keeps_text (unbroken_ofList rfl)
  have hstate : ending.Keeps (Attribute.binding "formState").write :=
    keeps_binding (unbroken_ofList rfl)
  rw [wrapped, keeps_void (unbroken_ofList rfl), wrapperAttributes]
  simp only [eachOf_append, eachOf_cons, eachOf_nil, each_attr, hlabel, hstate,
    keeps_path (show Unbroken "name" from unbroken_ofList rfl), keeps_requiredAttribute,
    keeps_helperAttribute,
    keeps_block (show Unbroken "field=\x7b" from unbroken_ofList rfl)
      (show Unbroken "\x7d" from unbroken_ofList rfl), true_and, and_true]

/-- An element behind a controller has the line breaks of its path, and its own. -/
theorem keeps_controlled {p : FieldPath} {element : Markup} :
    (controlled p element).Each ending.Keeps ↔
      ending.Keeps p.inCall ∧ element.Each ending.Keeps := by
  have hcontrol : ending.Keeps (Attribute.binding "control").write :=
    keeps_binding (unbroken_ofList rfl)
  have hrender : Unbroken "render=\x7b(\x7b field: controllerField \x7d) => (" :=
    unbroken_ofList rfl
  rw [controlled, keeps_void (unbroken_ofList rfl)]
  simp only [eachOf_cons, eachOf_nil, each_attr, hcontrol,
    keeps_path (show Unbroken "name" from unbroken_ofList rfl),
    keeps_block hrender (show Unbroken ")\x7d" from unbroken_ofList rfl), true_and, and_true]

theorem keeps_radioItem {option : String} :
    (radioItem option).Each ending.Keeps ↔ ending.Keeps (childText option) := by
  have hvalue : ∀ a ∈ [Attribute.text "value" option], Unbroken a.write := by
    rw [List.forall_mem_singleton]
    exact unbroken_text (unbroken_ofList rfl)
  rw [radioItem, keeps_inline (unbroken_ofList rfl) hvalue]
  simp only [eachOf_cons, eachOf_nil,
    keeps_mark (show Unbroken "RadioGroup.ItemHiddenInput" from unbroken_ofList rfl),
    keeps_mark (show Unbroken "RadioGroup.ItemIndicator" from unbroken_ofList rfl),
    keeps_label (show Unbroken "RadioGroup.ItemText" from unbroken_ofList rfl), true_and, and_true]

/-- The types of inputs are words. -/
theorem unbroken_of_control {kind : FieldKind} {type : String} (h : kind.control = .input type) :
    Unbroken type := by
  cases kind <;> cases h <;> decide

/-- A control has the line breaks of its path, and those of the texts that it shows. -/
theorem keeps_controlElement {f : Field} {kind : FieldKind} {p : FieldPath} {compact : Bool}
    (hselect : kind.control ≠ .select) (hlist : kind.control ≠ .fieldArray) :
    EachOf ending.Keeps (controlElement f kind.control p compact) ↔
      ending.Keeps p.inCall ∧ ∀ t ∈ kind.control.shownTexts f, ending.Keeps (childText t) := by
  have hnone : ∀ t ∈ ([] : List String), ending.Keeps (childText t) := List.forall_mem_nil _
  cases hcontrol : kind.control with
  | select => exact absurd hcontrol hselect
  | fieldArray => exact absurd hcontrol hlist
  | input type =>
    have htype : ending.Keeps (Attribute.constant "type" type).write :=
      keeps_constant (unbroken_ofList rfl) (unbroken_of_control hcontrol)
    simp only [controlElement, eachOf_append, eachOf_cons, eachOf_nil, each_attr, keeps_register,
      keeps_void (show Unbroken "Input" from unbroken_ofList rfl), keeps_placeholderAttribute,
      keeps_sizeAttribute, htype, Control.shownTexts, iff_true_intro hnone, true_and, and_true]
  | textArea =>
    have hresize : ending.Keeps (Attribute.constant "resize" "vertical").write :=
      keeps_constant (unbroken_ofList rfl) (unbroken_ofList rfl)
    simp only [controlElement, eachOf_append, eachOf_cons, eachOf_nil, each_attr, keeps_register,
      keeps_void (show Unbroken "Textarea" from unbroken_ofList rfl), keeps_placeholderAttribute,
      keeps_sizeAttribute, hresize, Control.shownTexts, iff_true_intro hnone, and_true]
  | checkbox =>
    have hchecked : ending.Keeps (Attribute.code "checked" "controllerField.value").write :=
      keeps_code (unbroken_ofList rfl) (unbroken_ofList rfl)
    have hchange : ending.Keeps
        (Attribute.code "onCheckedChange" "(e) => controllerField.onChange(!!e.checked)").write :=
      keeps_code (unbroken_ofList rfl) (unbroken_ofList rfl)
    simp only [controlElement, eachOf_append, eachOf_cons, eachOf_nil, each_attr, keeps_controlled,
      keeps_stacked (show Unbroken "Checkbox.Root" from unbroken_ofList rfl), keeps_sizeAttribute,
      hchecked, hchange, keeps_mark (show Unbroken "Checkbox.HiddenInput" from unbroken_ofList rfl),
      keeps_mark (show Unbroken "Checkbox.Control" from unbroken_ofList rfl),
      keeps_label (show Unbroken "Checkbox.Label" from unbroken_ofList rfl), Control.shownTexts,
      List.forall_mem_singleton, true_and, and_true]
  | radioGroup =>
    have hvalue : ending.Keeps (Attribute.code "value" "controllerField.value").write :=
      keeps_code (unbroken_ofList rfl) (unbroken_ofList rfl)
    have hchange : ending.Keeps
        (Attribute.code "onValueChange" "(e) => controllerField.onChange(e.value)").write :=
      keeps_code (unbroken_ofList rfl) (unbroken_ofList rfl)
    have hoptions : EachOf ending.Keeps (f.options.map radioItem) ↔
        ∀ t ∈ f.options, ending.Keeps (childText t) := by
      rw [eachOf_iff_forall_mem, List.forall_mem_map]
      exact forall₂_congr fun _ _ => keeps_radioItem
    simp only [controlElement, eachOf_cons, eachOf_nil, each_attr, keeps_controlled,
      keeps_stacked (show Unbroken "RadioGroup.Root" from unbroken_ofList rfl), hvalue, hchange,
      hoptions,
      keeps_inline (show Unbroken "Stack" from unbroken_ofList rfl)
        (show ∀ a ∈ [Attribute.constant "direction" "column"], Unbroken a.write by decide),
      Control.shownTexts, true_and, and_true]

@[simp] theorem keeps_optionsAttribute (options : List String) :
    (optionsAttribute options).Each ending.Keeps := by
  rw [optionsAttribute]
  split
  · rw [each_attr]
    exact keeps_code (unbroken_ofList rfl) (unbroken_ofList rfl)
  · rw [keeps_block (unbroken_ofList rfl) (unbroken_ofList rfl), eachOf_iff_forall_mem,
      List.forall_mem_map]
    intro option _
    rw [each_text, LineEnding.keeps_append_right (unbroken_ofList rfl)]
    refine LineEnding.keeps_of_unbroken ?_
    simp only [unbroken_append, unbroken_quote, and_true]
    and_intros <;> exact unbroken_ofList rfl

/-- A field with a single value has the line breaks of its path, and those of the texts that its
control shows. -/
theorem keeps_leafElement {f : Field} {kind : FieldKind} {p : FieldPath} {compact : Bool}
    (hkind : kind ≠ .array) :
    (leafElement f kind p compact).Each ending.Keeps ↔
      ending.Keeps p.inCall ∧ ∀ t ∈ kind.control.shownTexts f, ending.Keeps (childText t) := by
  rw [leafElement]
  split
  · next hselect =>
    have hnone : ∀ t ∈ ([] : List String), ending.Keeps (childText t) := List.forall_mem_nil _
    have hlabel : ending.Keeps (Attribute.text "label" f.label).write :=
      keeps_text (unbroken_ofList rfl)
    have hcontrol : ending.Keeps (Attribute.binding "control").write :=
      keeps_binding (unbroken_ofList rfl)
    have hstate : ending.Keeps (Attribute.binding "formState").write :=
      keeps_binding (unbroken_ofList rfl)
    simp only [hselect, selectElement,
      keeps_void (show Unbroken "SelectFieldWrapper" from unbroken_ofList rfl), eachOf_append,
      eachOf_cons, eachOf_nil, each_attr, hlabel, hcontrol, hstate,
      keeps_path (show Unbroken "name" from unbroken_ofList rfl), keeps_requiredAttribute,
      keeps_helperAttribute, keeps_placeholderAttribute, keeps_optionsAttribute,
      keeps_sizeAttribute, Control.shownTexts, iff_true_intro hnone, and_true]
  · next hselect =>
    have hlist : kind.control ≠ .fieldArray := by
      cases kind <;> first | exact absurd rfl hkind | decide
    rw [keeps_wrapped, keeps_controlElement hselect hlist, ← and_assoc, and_self]

/-! ## Lists -/

theorem keeps_button {onClick palette text : String} (hclick : Unbroken onClick)
    (hpalette : Unbroken palette) :
    (button onClick palette text).Each ending.Keeps ↔ ending.Keeps text := by
  have honClick : ending.Keeps (Attribute.code "onClick" onClick).write :=
    keeps_code (unbroken_ofList rfl) hclick
  have hsize : ending.Keeps (Attribute.constant "size" "sm").write :=
    keeps_constant (unbroken_ofList rfl) (unbroken_ofList rfl)
  have hcolor : ending.Keeps (Attribute.constant "colorPalette" palette).write :=
    keeps_constant (unbroken_ofList rfl) hpalette
  have hvariant : ending.Keeps (Attribute.constant "variant" "outline").write :=
    keeps_constant (unbroken_ofList rfl) (unbroken_ofList rfl)
  rw [button, keeps_stacked (unbroken_ofList rfl)]
  simp only [eachOf_cons, eachOf_nil, each_attr, each_text, honClick, hsize, hcolor, hvariant,
    true_and, and_true]

section
variable {f : Field} {handles : Handles} {p : FieldPath}

theorem Handles.Nameable.unbroken (h : handles.Nameable) :
    Unbroken handles.fields ∧ Unbroken handles.append ∧ Unbroken handles.remove :=
  ⟨unbroken_of_isIdentifier h.fields, unbroken_of_isIdentifier h.callable.1,
    unbroken_of_isIdentifier h.callable.2⟩

theorem keeps_removeButton (h : handles.Nameable) :
    (removeButton handles).Each ending.Keeps := by
  have hclick : Unbroken ("() => " ++ handles.remove ++ "(index)") := by
    rw [unbroken_append, unbroken_append]
    exact ⟨⟨unbroken_ofList rfl, h.unbroken.2.2⟩, unbroken_ofList rfl⟩
  rw [removeButton, keeps_button hclick (unbroken_ofList rfl)]
  exact LineEnding.keeps_of_unbroken (unbroken_ofList rfl)

theorem keeps_listHeader (h : handles.Nameable) :
    (listHeader f handles).Each ending.Keeps ↔ ending.Keeps (childText f.label) := by
  have hclick : Unbroken ("() => " ++ handles.append ++ "(" ++ literal f.itemTemplate ++ ")") := by
    simp only [unbroken_append]
    exact ⟨⟨⟨⟨unbroken_ofList rfl, h.unbroken.2.1⟩, unbroken_ofList rfl⟩,
      unbroken_literal _ (numberless_itemTemplate f)⟩, unbroken_ofList rfl⟩
  have hcount : ending.Keeps (braced (handles.fields ++ ".length") ++ " item" ++
      braced (handles.fields ++ ".length !== 1 ? 's' : ''")) := by
    refine LineEnding.keeps_of_unbroken ?_
    simp only [unbroken_append, unbroken_braced]
    exact ⟨⟨⟨h.unbroken.1, unbroken_ofList rfl⟩, unbroken_ofList rfl⟩, h.unbroken.1,
      unbroken_ofList rfl⟩
  rw [listHeader, keeps_inline (unbroken_ofList rfl) (by decide)]
  simp only [eachOf_cons, eachOf_nil, each_text, hcount,
    keeps_inline (show Unbroken "Text" from unbroken_ofList rfl)
      (show ∀ a ∈ [Attribute.constant "fontSize" "sm", Attribute.constant "color" "gray.600"],
        Unbroken a.write by decide),
    keeps_button hclick (show Unbroken "green" from unbroken_ofList rfl), true_and, and_true]
  rw [LineEnding.keeps_append_right (unbroken_ofList rfl),
    LineEnding.keeps_append_left (unbroken_ofList rfl)]

theorem keeps_emptyNote :
    (emptyNote f).Each ending.Keeps ↔ ending.Keeps (childText f.label) := by
  rw [emptyNote, keeps_inline (unbroken_ofList rfl) (by decide)]
  simp only [eachOf_cons, eachOf_nil, and_true]
  rw [keeps_inline (unbroken_ofList rfl) (by decide)]
  simp only [eachOf_cons, eachOf_nil, each_text, and_true]
  rw [LineEnding.keeps_append_right (unbroken_ofList rfl),
    LineEnding.keeps_append_left (unbroken_ofList rfl)]

/-- What an item of a list of primitives shows is the label of the list. -/
theorem eq_label_of_mem_shownTexts {t : String} (h : t ∈ f.itemKind.control.shownTexts f) :
    t = f.label := by
  have hprim := f.isPrimitive_itemKind
  cases hkind : f.itemKind <;> rw [hkind] at h hprim
  case select | radio | array => cases hprim
  case text | email | password | number | textArea => cases h
  case boolean => exact List.mem_singleton.mp h

/-- An item of a list of primitives has the line breaks of its path, and those of the label if this
is shown. -/
theorem keeps_primitiveItem (h : handles.Nameable) :
    (primitiveItem f p handles).Each ending.Keeps ↔
      ending.Keeps p.inCall ∧ ∀ t ∈ f.itemKind.control.shownTexts f, ending.Keeps (childText t) := by
  obtain ⟨hselect, hlist⟩ := control_of_isPrimitive f.isPrimitive_itemKind
  rw [primitiveItem, keeps_inline (unbroken_ofList rfl) (by decide), eachOf_append,
    keeps_controlElement hselect hlist]
  simp only [eachOf_cons, eachOf_nil, keeps_removeButton h, and_true]

theorem keeps_objectItem (h : handles.Nameable) {fields : List Markup} :
    (objectItem f handles fields).Each ending.Keeps ↔
      ending.Keeps (childText f.label) ∧ EachOf ending.Keeps fields := by
  have hattributes : EachOf ending.Keeps
      [.attr (.code "key" "item.id"), .attr (.code "p" "4"),
        .attr (.constant "border" "1px"), .attr (.constant "borderColor" "gray.200"),
        .attr (.constant "borderRadius" "md"), .attr (.constant "bg" "gray.50")] := by
    simp only [eachOf_cons, eachOf_nil, each_attr, and_true]
    refine ⟨?key, ?padding, ?_, ?_, ?_, ?_⟩
    case key | padding => exact keeps_code (unbroken_ofList rfl) (unbroken_ofList rfl)
    all_goals exact keeps_constant (unbroken_ofList rfl) (unbroken_ofList rfl)
  have hblank : ending.Keeps "" := LineEnding.keeps_of_unbroken (unbroken_ofList rfl)
  have hnumber : Unbroken (" #" ++ braced "index + 1") := by decide
  have htitle : ending.Keeps (childText f.label ++ " #" ++ braced "index + 1") ↔
      ending.Keeps (childText f.label) := by
    rw [String.append_assoc, LineEnding.keeps_append_right hnumber]
  rw [objectItem, keeps_stacked (unbroken_ofList rfl)]
  simp only [eachOf_cons, eachOf_nil, each_blank, hattributes, hblank, true_and, and_true]
  rw [keeps_inline (unbroken_ofList rfl) (by decide),
    keeps_inline (unbroken_ofList rfl) (by decide)]
  simp only [eachOf_cons, eachOf_nil, keeps_removeButton h, and_true]
  rw [keeps_inline (unbroken_ofList rfl) (by decide)]
  simp only [eachOf_cons, eachOf_nil, each_text, htitle, and_true]

/-- A list without the fields of its items has the line breaks of its path and of its label, and
those of the path of an item if the items are primitives. -/
theorem keeps_listElement (h : handles.Nameable) :
    (listElement f p handles []).Each ending.Keeps ↔
      ending.Keeps p.inCall ∧ ending.Keeps (childText f.label) ∧
        (f.children.isEmpty = true → ending.Keeps p.item.inCall) := by
  have hitems : Unbroken ("\x7b" ++ handles.fields ++ ".map((item, index) => (") := by
    rw [unbroken_append, unbroken_append]
    exact ⟨⟨unbroken_ofList rfl, h.unbroken.1⟩, unbroken_ofList rfl⟩
  have hnone : Unbroken ("\x7b" ++ handles.fields ++ ".length === 0 && (") := by
    rw [unbroken_append, unbroken_append]
    exact ⟨⟨unbroken_ofList rfl, h.unbroken.1⟩, unbroken_ofList rfl⟩
  have hblank : ending.Keeps "" := LineEnding.keeps_of_unbroken (unbroken_ofList rfl)
  rw [listElement, keeps_wrapped, eachOf_cons, keeps_inline (unbroken_ofList rfl) (by decide)]
  simp only [eachOf_cons, eachOf_nil, each_blank, hblank, keeps_listHeader h, keeps_emptyNote,
    keeps_block hitems (show Unbroken "))\x7d" from unbroken_ofList rfl),
    keeps_block hnone (show Unbroken ")\x7d" from unbroken_ofList rfl), true_and, and_true]
  refine and_congr_right fun _ => ?_
  by_cases hchildren : f.children.isEmpty = true
  · rw [if_pos hchildren, keeps_primitiveItem h]
    constructor
    · rintro ⟨hlabel, ⟨hpath, -⟩, -⟩
      exact ⟨hlabel, fun _ => hpath⟩
    · rintro ⟨hlabel, hpath⟩
      refine ⟨hlabel, ⟨hpath hchildren, fun t ht => ?_⟩, hlabel⟩
      rw [eq_label_of_mem_shownTexts ht]
      exact hlabel
  · rw [if_neg hchildren, keeps_objectItem h]
    constructor
    · rintro ⟨hlabel, -, -⟩
      exact ⟨hlabel, fun hempty => absurd hempty hchildren⟩
    · rintro ⟨hlabel, -⟩
      exact ⟨hlabel, ⟨hlabel, eachOf_nil⟩, hlabel⟩

/-- What an inner component is handed has the line breaks of its path. -/
theorem keeps_handedOn : EachOf ending.Keeps (handedOn p) ↔ ending.Keeps p.inCall := by
  have hcontrol : ending.Keeps (Attribute.binding "control").write :=
    keeps_binding (unbroken_ofList rfl)
  have hregister : ending.Keeps (Attribute.binding "register").write :=
    keeps_binding (unbroken_ofList rfl)
  have hstate : ending.Keeps (Attribute.binding "formState").write :=
    keeps_binding (unbroken_ofList rfl)
  simp only [handedOn, eachOf_cons, eachOf_nil, each_attr, hcontrol, hregister, hstate,
    keeps_path (show Unbroken "path" from unbroken_ofList rfl), true_and, and_true]

end

/-! ## Fields -/

/-- Whether the texts of a field that are shown between elements keep a line ending as they are
written there. -/
def ShowsKept (ending : LineEnding) (f : Field) : Prop :=
  ∀ t ∈ f.shownTexts, ending.Keeps (childText t)

theorem showsKept_of_kind {f : Field} {kind : FieldKind} (h : f.kind? = some kind) :
    ShowsKept ending f ↔ ∀ t ∈ kind.control.shownTexts f, ending.Keeps (childText t) := by
  rw [ShowsKept, Field.shownTexts_of_kind h]

theorem showsKept_of_array {f : Field} (h : f.kind? = some .array) :
    ShowsKept ending f ↔ ending.Keeps (childText f.label) := by
  rw [showsKept_of_kind h]
  exact List.forall_mem_singleton

/-- What a field of an item brings, in its place or in inner components, has the line breaks of the
path of the item, of the names and of the texts that are shown. -/
theorem keeps_item (f : Field) (hknown : Field.Everywhere Field.IsKnown f) : ∀ within parent,
    (∀ t ∈ itemTexts within parent f ++ innerTexts parent f, ending.Keeps t) ↔
      ending.Keeps within.body ∧
        Field.Everywhere (fun g => ending.Keeps g.name ∧ ShowsKept ending g) f := by
  induction f using Field.induction with
  | mk spec children ih =>
    intro within parent
    obtain ⟨⟨kind, hkind⟩, hchildren⟩ := Field.everywhere_iff.mp hknown
    rw [Field.everywhere_iff, List.forall_mem_append]
    by_cases harray : kind = .array
    · rw [harray] at hkind
      have hown : (∀ t ∈ itemTexts within parent ⟨spec, children⟩, ending.Keeps t) ↔
          ending.Keeps within.body ∧ ending.Keeps spec.name := by
        have hend : ending.Keeps "/>" := LineEnding.keeps_of_unbroken (unbroken_ofList rfl)
        rw [itemTexts_of_array hkind, List.forall_mem_append, List.forall_mem_singleton,
          and_iff_left hend]
        exact keeps_handedOn.trans FieldPath.keeps_child
      -- the path of the list is a variable there
      have hbody : ending.Keeps (FieldPath.variable "path").item.body :=
        LineEnding.keeps_of_unbroken (by decide)
      have hlist : (listElement ⟨spec, children⟩ (.variable "path") .own []).Each ending.Keeps ↔
          ending.Keeps (childText spec.label) := by
        have hpath : ending.Keeps (FieldPath.variable "path").inCall :=
          LineEnding.keeps_of_unbroken (unbroken_ofList rfl)
        rw [keeps_listElement Handles.nameable_own, FieldPath.keeps_item_inCall]
        exact ⟨fun h => h.2.1, fun h => ⟨hpath, h, fun _ => FieldPath.keeps_body_item.mp hbody⟩⟩
      have hinner : (∀ t ∈ innerTexts parent ⟨spec, children⟩, ending.Keeps t) ↔
          ending.Keeps (childText spec.label) ∧ ∀ c ∈ children,
            Field.Everywhere (fun g => ending.Keeps g.name ∧ ShowsKept ending g) c := by
        rw [innerTexts_of_array hkind, List.append_assoc, List.forall_mem_append,
          List.forall_mem_append, List.forall_mem_flatMap, List.forall_mem_flatMap, ← forall₂_and]
        refine and_congr hlist (forall₂_congr fun c hc => ?_)
        rw [← List.forall_mem_append, ih c hc (hchildren hkind c hc), and_iff_right hbody]
      rw [hown, hinner, showsKept_of_array hkind, and_assoc, and_assoc]
      exact and_congr_right fun _ => and_congr_right fun _ => and_congr_right fun _ =>
        ⟨fun h _ => h, fun h => h hkind⟩
    · have hne : (Field.mk spec children).kind? ≠ some .array :=
        fun h => harray (Option.some.inj (hkind.symm.trans h))
      have htexts : itemTexts within parent ⟨spec, children⟩ =
          (leafElement ⟨spec, children⟩ kind (within.child spec.name) true).texts :=
        itemTexts_of_known (Field.kind?_eq_some_iff.mp hkind) harray
      have hown : (∀ t ∈ itemTexts within parent ⟨spec, children⟩, ending.Keeps t) ↔
          (ending.Keeps within.body ∧ ending.Keeps spec.name) ∧
            ShowsKept ending ⟨spec, children⟩ := by
        rw [htexts, showsKept_of_kind hkind]
        exact (keeps_leafElement harray).trans (and_congr_left' FieldPath.keeps_child)
      rw [hown, innerTexts_of_ne_array hne, and_iff_left (List.forall_mem_nil _), and_assoc]
      exact and_congr_right fun _ => (and_iff_left fun h => absurd h hne).symm

/-- What a field at the top brings. A list brings its name into the paths of its items. -/
theorem keeps_top (fields : List Field) (f : Field)
    (hknown : Field.Everywhere Field.IsKnown f) :
    (∀ t ∈ topTexts (arrayHandles fields) f ++ topInnerTexts f, ending.Keeps t) ↔
      ShowsKept ending f ∧ (f.kind? = some .array → ending.Keeps f.name ∧ ∀ c ∈ f.children,
        Field.Everywhere (fun g => ending.Keeps g.name ∧ ShowsKept ending g) c) := by
  obtain ⟨⟨kind, hkind⟩, hchildren⟩ := Field.everywhere_iff.mp hknown
  have hquoted : ending.Keeps (FieldPath.literal f.name).inCall :=
    LineEnding.keeps_of_unbroken (unbroken_quote f.name)
  rw [List.forall_mem_append]
  by_cases harray : kind = .array
  · rw [harray] at hkind
    have hpath : ending.Keeps (FieldPath.literal f.name).item.body ↔ ending.Keeps f.name :=
      FieldPath.keeps_body_item.trans FieldPath.keeps_body_literal
    have hlist : (listElement f (.literal f.name)
          (Handles.ofList (arrayHandles fields) f) []).Each ending.Keeps ↔
        ending.Keeps (childText f.label) ∧ (f.children.isEmpty = true → ending.Keeps f.name) := by
      rw [keeps_listElement (Handles.nameable_ofList fields f), FieldPath.keeps_item_inCall,
        FieldPath.keeps_body_literal]
      exact and_iff_right hquoted
    have hitems : ((∀ t ∈ f.children.flatMap (itemTexts (FieldPath.literal f.name).item f.name),
          ending.Keeps t) ∧ ∀ t ∈ topInnerTexts f, ending.Keeps t) ↔
        ∀ c ∈ f.children, ending.Keeps f.name ∧
          Field.Everywhere (fun g => ending.Keeps g.name ∧ ShowsKept ending g) c := by
      rw [topInnerTexts_of_array hkind, List.forall_mem_flatMap, List.forall_mem_flatMap,
        ← forall₂_and]
      refine forall₂_congr fun c hc => ?_
      rw [← List.forall_mem_append, keeps_item c (hchildren hkind c hc), hpath]
    rw [topTexts_of_array hkind, List.forall_mem_append, and_assoc, hitems,
      showsKept_of_array hkind]
    refine (and_congr_left' hlist).trans ?_
    rw [and_assoc]
    refine and_congr_right fun _ => ?_
    -- the name is in the path of an item, and it is written with each of its fields
    constructor
    · rintro ⟨hempty, hall⟩ -
      refine ⟨?_, fun c hc => (hall c hc).2⟩
      cases hfields : f.children with
      | nil => exact hempty (by rw [hfields]; rfl)
      | cons c rest => exact (hall c (by rw [hfields]; exact List.mem_cons_self)).1
    · intro h
      obtain ⟨hname, hall⟩ := h hkind
      exact ⟨fun _ => hname, fun c hc => ⟨hname, hall c hc⟩⟩
  · have hne : f.kind? ≠ some .array := fun h => harray (Option.some.inj (hkind.symm.trans h))
    rw [topTexts_of_known (Field.kind?_eq_some_iff.mp hkind) harray, topInnerTexts_of_ne_array hne,
      and_iff_left (List.forall_mem_nil _), showsKept_of_kind hkind,
      and_iff_left fun h => absurd h hne]
    exact (keeps_leafElement harray).trans (and_iff_right hquoted)

/-! ## The file -/

section
variable {ids : Identifiers} {form : Form}

/-- Of all lines of the frame, only that of the title can have line breaks. -/
theorem unbroken_of_frameText (hname : IsWord ids.componentName.toList)
    (hids : isIdentifier ids.schemaName = true ∧ isIdentifier ids.formDataType = true)
    {text : String} (h : FrameText ids form text) : text = childText form.title ∨ Unbroken text := by
  have hcomponent : Unbroken ids.componentName :=
    unbroken_of_isIdentifier (isIdentifier_of_isWord hname)
  have hprops : Unbroken ids.propsName := unbroken_append.mpr ⟨hcomponent, unbroken_ofList rfl⟩
  have hschema : Unbroken ids.schemaName := unbroken_of_isIdentifier hids.1
  have htype : Unbroken ids.formDataType := unbroken_of_isIdentifier hids.2
  obtain ⟨-, -, hlists, -⟩ := rendering_ofFields hname form
  have hinner : ∀ c ∈ innerComponents ids form, Unbroken c.name :=
    forall_mem_of_forall₂ hlists fun _ _ h => unbroken_of_isIdentifier (h.name.isIdentifier hname)
  cases h with
  | title => exact .inl rfl
  | constant h =>
    have hall : ∀ text ∈ frameConstants, Unbroken text := by
      simp only [unbroken_iff_all, ← Text.chars_eq_toList]
      decide
    exact .inr (hall _ h)
  | schemaImport | props | propsMember | component | resolver | submit | exported =>
    right
    simp only [unbroken_append, hcomponent, hprops, hschema, htype, and_true]
    and_intros <;> exact unbroken_ofList rfl
  | innerProps h | innerComponent h =>
    right
    simp only [unbroken_append, subComponentProps, hinner _ h, and_true, true_and]
    and_intros <;> exact unbroken_ofList rfl
  | formCall =>
    have hbindings :
        Unbroken (", ".intercalate (formBindings (Usage.ofFields false form.fields))) := by
      refine unbroken_intercalate (unbroken_ofList rfl) fun name hmem => ?_
      have hnames :
          ∀ name ∈ ["control", "handleSubmit", "register", "formState"], Unbroken name := by
        decide
      exact hnames name (mem_of_mem_usedNames hmem)
    right
    simp only [unbroken_append, hbindings, htype, and_true]
    and_intros <;> exact unbroken_ofList rfl
  | @value f h =>
    have hvalue : Unbroken f.defaultRule.literal := by
      cases f.defaultRule <;> decide
    right
    simp only [unbroken_append, unbroken_propertyKey, hvalue, and_true, true_and]
    and_intros <;> exact unbroken_ofList rfl
  | hookCall h =>
    right
    simp only [unbroken_append, h.unbroken, and_true]
    and_intros <;> exact unbroken_ofList rfl
  | hookList name =>
    right
    simp only [unbroken_append, unbroken_quote, and_true]
    and_intros <;> exact unbroken_ofList rfl

/-- The title is on a line of the frame. -/
theorem childText_title_mem_frame (ids : Identifiers) (form : Form) :
    childText form.title ∈ (frame ids form).map Line.text := by
  have hpage : (⟨5, childText form.title⟩ : Line) ∈ (pageMarkup form.title []).lines 2 :=
    List.mem_cons_of_mem _ (List.mem_cons_of_mem _ (List.mem_cons_of_mem _ List.mem_cons_self))
  have hmain : (⟨5, childText form.title⟩ : Line) ∈ mainFrame ids form :=
    List.mem_append_left _ (List.mem_append_left _ (List.mem_append_right _ hpage))
  exact List.mem_map_of_mem (List.mem_append_left _ (List.mem_append_right _ hmain))

/-- A component file keeps a line ending exactly when its title does, as it is written, and all
lines that its fields bring. -/
theorem keeps_fileLines (hids : Identifiers.ofTitle form.title = .ok ids) :
    (∀ l ∈ fileLines ids form, ending.Keeps l.text) ↔
      ending.Keeps (childText form.title) ∧ ∀ f ∈ form.fields,
        ∀ t ∈ topTexts (arrayHandles form.fields) f ++ topInnerTexts f, ending.Keeps t := by
  have hword : IsWord ids.componentName.toList := Identifiers.isWord_of_ofTitle hids
  obtain ⟨names, hnames, hperm⟩ := texts_fileLines ids form
  have hopening : ∀ t ∈ names.map ("<" ++ ·), ending.Keeps t := by
    rw [List.forall_mem_map]
    intro name hname
    exact LineEnding.keeps_of_unbroken
      (unbroken_opening (unbroken_of_isIdentifier ((hnames name hname).isIdentifier hword)))
  have hframe : (∀ t ∈ (frame ids form).map Line.text, ending.Keeps t) ↔
      ending.Keeps (childText form.title) := by
    constructor
    · exact fun h => h _ (childText_title_mem_frame ids form)
    · intro htitle
      rw [List.forall_mem_map]
      intro l hl
      have htext : FrameText ids form l.text := framed_frame l hl
      rcases unbroken_of_frameText hword (Identifiers.isIdentifier_of_ofTitle hids) htext with h | h
      · rwa [h]
      · exact LineEnding.keeps_of_unbroken h
  have htexts : (∀ l ∈ fileLines ids form, ending.Keeps l.text) ↔
      ∀ t ∈ (fileLines ids form).map Line.text, ending.Keeps t := List.forall_mem_map.symm
  have hgiven : (∀ t ∈ (fileLines ids form).map Line.text, ending.Keeps t) ↔
      ∀ t ∈ names.map ("<" ++ ·) ++ ((frame ids form).map Line.text ++
        (form.fields.flatMap (topTexts (arrayHandles form.fields)) ++
          form.fields.flatMap topInnerTexts)), ending.Keeps t :=
    forall_congr' fun t => imp_congr_left hperm.mem_iff
  rw [htexts, hgiven, List.forall_mem_append, and_iff_right hopening, List.forall_mem_append,
    hframe, List.forall_mem_append, List.forall_mem_flatMap, List.forall_mem_flatMap, ← forall₂_and]
  refine and_congr_right fun _ => forall₂_congr fun f _ => ?_
  rw [← List.forall_mem_append]

end

end

end Component

/-! ## Texts that are written as they are -/

namespace Field

/-- The names that are in the paths of the items of a list: its own, and those of all fields that
are reached below it. -/
def itemNames (f : Field) : List String :=
  if f.kind? = some .array then f.name :: (placesBelow "" f).map fun p => p.field.name else []

theorem forall_everywhere_iff {P : Field → Prop} {f : Field} (h : f.kind? = some .array)
    (parent : String) :
    (∀ c ∈ f.children, Everywhere P c) ↔ ∀ p ∈ placesBelow parent f, P p.field := by
  rw [← everywhereIn_iff_forall_mem, placesBelow, if_pos h]
  exact everywhereIn_iff_forall_places

end Field

namespace Form

open Source Component

/-- The texts of a form that its component file has as they are: the title, labels and options
between elements, as far as they are not written as literals, and the names that are in the paths
of items. -/
def componentTexts (form : Form) : List String :=
  (form.title :: form.places.flatMap fun p => p.field.shownTexts).filter
      (fun s => childText s = s) ++
    form.fields.flatMap Field.itemNames

/-- **The line breaks of a component file.** It keeps a line ending exactly when all texts do that
it has as they are. -/
theorem keeps_componentTexts {ending : LineEnding} {ids : Identifiers} {form : Form}
    (hids : Identifiers.ofTitle form.title = .ok ids)
    (hknown : Field.EverywhereIn Field.IsKnown form.fields) :
    (∀ l ∈ fileLines ids form, ending.Keeps l.text) ↔
      ∀ t ∈ form.componentTexts, ending.Keeps t := by
  rw [Field.everywhereIn_iff_forall_mem] at hknown
  have hfield : ∀ f ∈ form.fields,
      ((∀ t ∈ topTexts (arrayHandles form.fields) f ++ topInnerTexts f, ending.Keeps t) ↔
        (ShowsKept ending f ∧ ∀ p ∈ Field.placesBelow "" f, ShowsKept ending p.field) ∧
          ∀ t ∈ f.itemNames, ending.Keeps t) := by
    intro f hf
    rw [keeps_top _ f (hknown f hf), and_assoc]
    refine and_congr_right fun _ => ?_
    by_cases harray : f.kind? = some .array
    · rw [Field.itemNames, if_pos harray, List.forall_mem_cons, List.forall_mem_map,
        Field.forall_everywhere_iff harray "", forall₂_and]
      constructor
      · intro h
        obtain ⟨hname, hnames, hshown⟩ := h harray
        exact ⟨hshown, hname, hnames⟩
      · rintro ⟨hshown, hname, hnames⟩ -
        exact ⟨hname, hnames, hshown⟩
    · rw [Field.itemNames, if_neg harray, Field.placesBelow, if_neg harray]
      exact iff_of_true (fun h => absurd h harray) ⟨List.forall_mem_nil _, List.forall_mem_nil _⟩
  have hplaces : (∀ p ∈ form.places, ShowsKept ending p.field) ↔
      ∀ f ∈ form.fields,
        ShowsKept ending f ∧ ∀ p ∈ Field.placesBelow "" f, ShowsKept ending p.field :=
    Field.forall_places_iff
  have hshown : (∀ t ∈ (form.title :: form.places.flatMap fun p => p.field.shownTexts).filter
        (fun s => childText s = s), ending.Keeps t) ↔
      ending.Keeps (childText form.title) ∧ ∀ p ∈ form.places, ShowsKept ending p.field := by
    have hfilter : ∀ t, (t ∈ (form.title :: form.places.flatMap fun p => p.field.shownTexts).filter
        (fun s => childText s = s) → ending.Keeps t) ↔
          (t ∈ form.title :: form.places.flatMap (fun p => p.field.shownTexts) →
            ending.Keeps (childText t)) := by
      intro t
      rw [List.mem_filter, decide_eq_true_eq, keeps_childText, and_imp]
    rw [forall_congr' hfilter, List.forall_mem_cons, List.forall_mem_flatMap]
    exact Iff.rfl
  rw [keeps_fileLines hids, forall₂_congr hfield, forall₂_and, ← hplaces, componentTexts,
    List.forall_mem_append, hshown, List.forall_mem_flatMap, and_assoc]

end Form

end WebForm
