import WebForm.Proofs.Component.Frame
import WebForm.Proofs.Component.Usage
import WebForm.Proofs.Source.Comment
import WebForm.Proofs.Text.Bytes
/-!
# Elements that a component file opens

Which elements of the libraries the lines of a file open. What each field of a form opens, in its
place or in inner components, are the elements that its usage names, besides those that every file
has and its inner components.
-/

set_option autoImplicit false

namespace WebForm.Component

open Source Identifier Markup

/-! ## Reading -/

/-- The name that a line uses by opening an element: a part of a component is named after it. -/
def opened (line : String) : List String :=
  ((tag? line).map fun tag => leadingName tag.toList).toList

/-- The names that some lines use by opening elements. -/
def openedIn (lines : List String) : List String := lines.flatMap opened

theorem openedIn_map_text (ls : List Line) :
    openedIn (ls.map Line.text) = (elements ls).map fun tag => leadingName tag.toList := by
  induction ls with
  | nil => rfl
  | cons l rest ih =>
    have hrest : (rest.map Line.text).flatMap opened =
        (rest.filterMap fun l => tag? l.text).map fun tag => leadingName tag.toList := ih
    rw [List.map_cons, openedIn, List.flatMap_cons, hrest, elements, List.filterMap_cons, opened]
    cases tag? l.text <;> rfl

@[simp] theorem openedIn_nil : openedIn [] = [] := rfl

@[simp] theorem openedIn_cons (line : String) (rest : List String) :
    openedIn (line :: rest) = opened line ++ openedIn rest := List.flatMap_cons

@[simp] theorem openedIn_append (lines lines' : List String) :
    openedIn (lines ++ lines') = openedIn lines ++ openedIn lines' := List.flatMap_append

theorem mem_openedIn {name : String} {lines : List String} :
    name ∈ openedIn lines ↔ ∃ line ∈ lines, name ∈ opened line := List.mem_flatMap

/-- The order of lines does not matter for what they open. -/
theorem mem_openedIn_of_perm {lines lines' : List String} (h : lines.Perm lines') (name : String) :
    name ∈ openedIn lines ↔ name ∈ openedIn lines' := by
  rw [mem_openedIn, mem_openedIn]
  exact exists_congr fun line => and_congr_left fun _ => h.mem_iff

theorem opened_of_head? {line : String} (h : line.toList.head? ≠ some '<') : opened line = [] := by
  rw [opened, tag?_of_head? h]
  rfl

/-- A text that opens no element, whatever comes behind it. -/
def opensNothing (head : String) : Bool := head.toList.head?.any (· ≠ '<')

theorem opened_append {head : String} (h : opensNothing head = true) (rest : String) :
    opened (head ++ rest) = [] := by
  rw [opensNothing] at h
  refine opened_of_head? ?_
  rw [String.toList_append, List.head?_append]
  cases hhead : head.toList.head? with
  | none =>
    rw [hhead] at h
    cases h
  | some c =>
    rw [hhead] at h
    exact fun hsame => of_decide_eq_true h (Option.some.inj hsame)

/-- A tag opens an element, whatever stands behind it on its line. -/
theorem opened_tag {tag rest : String} (htag : isTagName tag = true)
    (hrest : ∀ c, rest.toList.head? = some c → isTagPart c = false) :
    opened ("<" ++ tag ++ rest) = [leadingName tag.toList] := by
  rw [opened, tag?_append htag hrest]
  rfl

@[simp] theorem opened_closing (tag : String) : opened (closing tag) = [] := by
  have hchars : (closing tag).toList = '<' :: '/' :: (tag ++ ">").toList := by
    rw [closing, String.append_assoc, String.toList_append]
    rfl
  have hnone : isIdentifierStart '/' = false := by decide
  rw [opened, tag?, hchars]
  simp only [hnone, Bool.false_eq_true, if_false]
  rfl

theorem opened_childText (s : String) : opened (childText s) = [] :=
  opened_of_head? (head?_childText s)

theorem opened_childText_append (s : String) {tail : String}
    (h : opensNothing tail = true) (rest : String) : opened (childText s ++ tail ++ rest) = [] := by
  by_cases hempty : childText s = ""
  · rw [hempty, String.empty_append]
    exact opened_append h rest
  · refine opened_of_head? ?_
    rw [String.append_assoc, String.toList_append,
      List.head?_append_of_ne_nil _ (mt String.toList_eq_nil_iff.mp hempty)]
    exact head?_childText s

theorem opened_write {a : Attribute} (h : opensNothing a.opening = true) : opened a.write = [] := by
  obtain ⟨rest, hrest⟩ := a.exists_write_eq
  rw [hrest]
  exact opened_append h rest

section
variable {name : String} (h : opensNothing name = true)
include h

theorem opened_constant (value : String) : opened (Attribute.constant name value).write = [] :=
  opened_write h

theorem opened_text (value : String) : opened (Attribute.text name value).write = [] :=
  opened_write h

theorem opened_code (value : String) : opened (Attribute.code name value).write = [] :=
  opened_write h

theorem opened_binding : opened (Attribute.binding name).write = [] := opened_write h

theorem opened_path (p : FieldPath) : opened (Attribute.path name p).write = [] := opened_write h

end

@[simp] theorem opened_register (p : FieldPath) : opened (Attribute.register p).write = [] :=
  opened_write (show opensNothing "\x7b...register(" = true by decide)

/-! ### Pieces of markup -/

namespace Markup

/-- The names that a piece of markup uses by opening elements. -/
def opens (m : Markup) : List String := openedIn m.texts

/-- The names that pieces use one after the other. -/
def allOpens (ms : List Markup) : List String := openedIn (allTexts ms)

@[simp] theorem allOpens_nil : allOpens [] = [] := rfl

@[simp] theorem allOpens_cons (m : Markup) (rest : List Markup) :
    allOpens (m :: rest) = m.opens ++ allOpens rest := by
  rw [allOpens, allTexts_cons, openedIn_append, opens, allOpens]

@[simp] theorem allOpens_append (ms ms' : List Markup) :
    allOpens (ms ++ ms') = allOpens ms ++ allOpens ms' := by
  rw [allOpens, allTexts_append, openedIn_append, allOpens, allOpens]

theorem allOpens_eq_flatMap (ms : List Markup) : allOpens ms = ms.flatMap opens := by
  induction ms with
  | nil => rfl
  | cons m rest ih => rw [allOpens_cons, ih, List.flatMap_cons]

@[simp] theorem opens_blank : Markup.blank.opens = [] := rfl

@[simp] theorem opens_text (line : String) : (Markup.text line).opens = opened line := by
  simp [opens, texts]

@[simp] theorem opens_attr (a : Attribute) : (Markup.attr a).opens = opened a.write := by
  simp [opens, texts]

theorem opens_block {head tail : String} (hhead : opened head = []) (htail : opened tail = [])
    (steps : Nat) (inner : List Markup) :
    (Markup.block steps head inner tail).opens = allOpens inner := by
  simp [opens, texts, hhead, htail, allOpens]

section
variable {tag : String} (h : isTagName tag = true)
include h

theorem opened_open : opened ("<" ++ tag) = [leadingName tag.toList] := by
  have hopen : opened ("<" ++ tag ++ "") = [leadingName tag.toList] := opened_tag h (by simp)
  rwa [String.append_empty] at hopen

theorem opens_void (attributes : List Markup) :
    (Markup.void tag attributes).opens = leadingName tag.toList :: allOpens attributes := by
  have hend : opened "/>" = [] := rfl
  simp [opens, texts, opened_open h, hend, allOpens]

theorem opens_stacked (attributes content : List Markup) :
    (Markup.stacked tag attributes content).opens =
      leadingName tag.toList :: (allOpens attributes ++ allOpens content) := by
  have hend : opened ">" = [] := rfl
  simp [opens, texts, opened_open h, hend, allOpens]

theorem opens_inline (attributes : List Attribute) (content : List Markup) :
    (Markup.inline tag attributes content).opens =
      leadingName tag.toList :: allOpens content := by
  have hopen : opened ("<" ++ tag ++ attributesText attributes ++ ">") =
      [leadingName tag.toList] := by
    rw [String.append_assoc]
    refine opened_tag h fun c hc => ?_
    -- attributes have a blank in front of each of them
    cases attributes with
    | nil =>
      obtain rfl := Option.some.inj hc
      decide
    | cons a rest =>
      rw [attributesText, List.map_cons, String.join_cons, String.append_assoc,
        String.append_assoc, String.toList_append] at hc
      obtain rfl := Option.some.inj hc
      decide
  simp [opens, texts, hopen, allOpens]

theorem opens_mark : (Markup.mark tag).opens = [leadingName tag.toList] := by
  have hopen : opened ("<" ++ tag ++ " />") = [leadingName tag.toList] := by
    refine opened_tag h fun c hc => ?_
    obtain rfl := Option.some.inj hc
    decide
  simp [opens, texts, hopen]

theorem opens_label (s : String) : (Markup.label tag s).opens = [leadingName tag.toList] := by
  have hopen : opened ("<" ++ tag ++ ">" ++ childText s ++ closing tag) =
      [leadingName tag.toList] := by
    have hsplit : "<" ++ tag ++ ">" ++ childText s ++ closing tag =
        "<" ++ tag ++ (">" ++ (childText s ++ closing tag)) := by simp only [String.append_assoc]
    rw [hsplit]
    refine opened_tag h fun c hc => ?_
    rw [String.toList_append] at hc
    obtain rfl := Option.some.inj hc
    decide
  simp [opens, texts, hopen]

end

end Markup

/-! ## Elements -/

section
variable {f : Field} {p : FieldPath} {handles : Handles}

@[simp] theorem allOpens_sizeAttribute (compact : Bool) :
    allOpens (sizeAttribute compact) = [] := by
  cases compact <;> rfl

@[simp] theorem allOpens_helperAttribute (spec : FieldSpec) :
    allOpens (helperAttribute spec) = [] := by
  rw [helperAttribute]
  cases spec.helperText with
  | none => rfl
  | some text => simp (disch := decide) [opened_text]

@[simp] theorem opens_requiredAttribute (spec : FieldSpec) :
    (requiredAttribute spec).opens = [] := by
  simp (disch := decide) [requiredAttribute, opened_code]

@[simp] theorem opens_placeholderAttribute (f : Field) : (placeholderAttribute f).opens = [] := by
  simp (disch := decide) [placeholderAttribute, opened_text]

@[simp] theorem opens_button (onClick palette text : String) :
    (button onClick palette text).opens = "Button" :: opened text := by
  simp +decide (disch := decide) [button, opens_stacked, opened_constant, opened_code]

@[simp] theorem opens_wrapped (spec : FieldSpec) (p : FieldPath) (content : List Markup) :
    (wrapped spec p content).opens = "FieldWrapper" :: allOpens content := by
  have hhead : opened "field=\x7b" = [] := rfl
  have htail : opened "\x7d" = [] := rfl
  simp +decide (disch := decide) [wrapped, wrapperAttributes, opens_void, opens_block hhead htail,
    opened_text, opened_path, opened_binding]

@[simp] theorem opens_controlled (p : FieldPath) (element : Markup) :
    (controlled p element).opens = "Controller" :: element.opens := by
  have hhead : opened "render=\x7b(\x7b field: controllerField \x7d) => (" = [] := rfl
  have htail : opened ")\x7d" = [] := rfl
  simp +decide (disch := decide) [controlled, opens_void, opens_block hhead htail, opened_path,
    opened_binding]

@[simp] theorem opens_radioItem (option : String) :
    (radioItem option).opens = ["RadioGroup", "RadioGroup", "RadioGroup", "RadioGroup"] := by
  simp +decide (disch := decide) [radioItem, opens_inline, opens_mark, opens_label]

@[simp] theorem opens_optionsAttribute (options : List String) :
    (optionsAttribute options).opens = [] := by
  have hhead : opened "options=\x7b[" = [] := rfl
  have htail : opened "]\x7d" = [] := rfl
  rw [optionsAttribute]
  split
  · simp (disch := decide) [opened_code]
  · rw [opens_block hhead htail, allOpens_eq_flatMap, List.flatMap_map]
    refine List.flatMap_eq_nil_iff.mpr fun option _ => ?_
    simp (disch := decide) only [opens_text, String.append_assoc, opened_append]

@[simp] theorem opens_selectElement (f : Field) (p : FieldPath) (compact : Bool) :
    (selectElement f p compact).opens = ["SelectFieldWrapper"] := by
  simp +decide (disch := decide) [selectElement, opens_void, opened_text, opened_path,
    opened_binding]

@[simp] theorem opens_removeButton (handles : Handles) :
    (removeButton handles).opens = ["Button"] := by
  have htext : opened "Remove" = [] := rfl
  rw [removeButton, opens_button, htext]

@[simp] theorem opens_listHeader (f : Field) (handles : Handles) :
    (listHeader f handles).opens = ["HStack", "Text", "Button"] := by
  simp +decide (disch := decide) [listHeader, opens_inline, braced, String.append_assoc,
    opened_append]

@[simp] theorem opens_emptyNote (f : Field) : (emptyNote f).opens = ["Box", "Text"] := by
  simp +decide (disch := decide) [emptyNote, opens_inline, String.append_assoc, opened_append]

@[simp] theorem opens_primitiveItem (f : Field) (p : FieldPath) (handles : Handles) :
    (primitiveItem f p handles).opens =
      "HStack" :: (allOpens (controlElement f f.itemKind.control p true) ++ ["Button"]) := by
  simp +decide (disch := decide) [primitiveItem, opens_inline]

@[simp] theorem opens_objectItem (f : Field) (handles : Handles) (fields : List Markup) :
    (objectItem f handles fields).opens =
      ["Box", "HStack", "Text", "Button", "VStack"] ++ allOpens fields := by
  have htext : opened (childText f.label ++ " #" ++ braced "index + 1") = [] :=
    opened_childText_append _ (by decide) _
  simp +decide (disch := decide) [objectItem, opens_stacked, opens_inline, opened_constant,
    opened_code, htext]

/-- What the element of a list opens besides what its items do. -/
@[simp] theorem opens_listElement (f : Field) (p : FieldPath) (handles : Handles)
    (fields : List Markup) :
    (listElement f p handles fields).opens =
      ["FieldWrapper", "VStack", "HStack", "Text", "Button"] ++
        (if f.children.isEmpty then primitiveItem f p.item handles
          else objectItem f handles fields).opens ++ ["Box", "Text"] := by
  have hitems : opened ("\x7b" ++ (handles.fields ++ ".map((item, index) => (")) = [] :=
    opened_append (by decide) _
  have hempty : opened ("\x7b" ++ (handles.fields ++ ".length === 0 && (")) = [] :=
    opened_append (by decide) _
  have htail : opened "))\x7d" = [] := rfl
  have htail' : opened ")\x7d" = [] := rfl
  simp +decide [listElement, opens_inline, String.append_assoc, opens_block hitems htail,
    opens_block hempty htail']

end

/-! ## What fields open -/

/-- The names that a file imports only if it uses them. -/
def conditionalNames : List String :=
  ["useFieldArray", "Controller", "Control", "FormState", "UseFormRegister", "Checkbox", "HStack",
    "Input", "RadioGroup", "Stack", "Text", "Textarea", "SelectFieldWrapper"]

theorem mem_usedNames {name : String} {names : List (String × Bool)} :
    name ∈ usedNames names ↔ (name, true) ∈ names := by
  simp [usedNames]

namespace Usage

/-- The elements that a file imports only if it uses them, and what uses them. -/
def elementParts : List (String × (Usage → Bool)) :=
  [("Controller", controller), ("Checkbox", checkbox), ("HStack", fieldArray), ("Input", input),
    ("RadioGroup", radio), ("Stack", radio), ("Text", fieldArray), ("Textarea", textArea),
    ("SelectFieldWrapper", select)]

/-- The elements among them that are used. -/
def elementNames (u : Usage) : List String :=
  usedNames (elementParts.map fun part => (part.1, part.2 u))

theorem mem_elementNames {u : Usage} {name : String} :
    name ∈ u.elementNames ↔ ∃ part ∈ elementParts, part.1 = name ∧ part.2 u = true := by
  simp [elementNames, mem_usedNames]

theorem isPart_of_mem_elementParts : ∀ part ∈ elementParts, IsPart part.2 := by
  have hcontroller : IsPart controller := by
    refine ⟨rfl, fun u v => ?_⟩
    simp only [controller, union]
    grind
  simp only [elementParts, List.forall_mem_cons]
  exact ⟨hcontroller, ⟨rfl, fun _ _ => rfl⟩, isPart_fieldArray, ⟨rfl, fun _ _ => rfl⟩,
    ⟨rfl, fun _ _ => rfl⟩, ⟨rfl, fun _ _ => rfl⟩, isPart_fieldArray, ⟨rfl, fun _ _ => rfl⟩,
    ⟨rfl, fun _ _ => rfl⟩, List.forall_mem_nil _⟩

theorem mem_elementNames_union {u v : Usage} {name : String} :
    name ∈ (u.union v).elementNames ↔ name ∈ u.elementNames ∨ name ∈ v.elementNames := by
  have hparts : ∀ part ∈ elementParts,
      (part.1 = name ∧ part.2 (u.union v) = true) ↔
        (part.1 = name ∧ part.2 u = true) ∨ (part.1 = name ∧ part.2 v = true) := by
    intro part hpart
    rw [(isPart_of_mem_elementParts part hpart).union, Bool.or_eq_true, and_or_left]
  rw [mem_elementNames, mem_elementNames, mem_elementNames, ← exists_or]
  refine exists_congr fun part => ?_
  rw [← and_or_left]
  exact and_congr_right (hparts part)

end Usage

/-- Lines open exactly the elements that are used, out of those that may be. -/
def Opens (u : Usage) (lines : List String) : Prop :=
  ∀ name ∈ conditionalNames, name ∈ openedIn lines ↔ name ∈ u.elementNames

namespace Opens

variable {u v : Usage} {lines lines' : List String}

theorem nothing (h : ∀ name ∈ conditionalNames, name ∉ openedIn lines) : Opens {} lines :=
  fun name hname => iff_of_false (h name hname) List.not_mem_nil

theorem append (h : Opens u lines) (h' : Opens v lines') :
    Opens (u.union v) (lines ++ lines') := by
  intro name hname
  rw [openedIn_append, List.mem_append, h name hname, h' name hname, Usage.mem_elementNames_union]

/-- Lines that open nothing do not matter. -/
theorem behind (hnothing : openedIn lines' = []) (h : Opens u lines) : Opens u (lines' ++ lines) := by
  intro name hname
  rw [openedIn_append, hnothing, List.nil_append]
  exact h name hname

theorem of_perm (h : Opens u lines) (hperm : lines'.Perm lines) : Opens u lines' :=
  fun name hname => (mem_openedIn_of_perm hperm name).trans (h name hname)

/-- Fields together open what each of them opens. -/
theorem flatMap {nested : Bool} {fs : List Field} {lines : Field → List String}
    (h : ∀ f ∈ fs, Opens (.ofField nested f) (lines f)) :
    Opens (.ofFields nested fs) (fs.flatMap lines) := by
  induction fs with
  | nil => exact .nothing fun _ _ => List.not_mem_nil
  | cons f rest ih =>
    rw [List.forall_mem_cons] at h
    exact h.1.append (ih h.2)

end Opens

section
variable {f : Field}

theorem mem_allOpens_controlElement {control : Control} (h : control ≠ .select) (f : Field)
    (p : FieldPath) (compact : Bool) (name : String) :
    name ∈ allOpens (controlElement f control p compact) ↔
      name ∈ (Usage.ofControl control).elementNames := by
  cases control with
  | select => exact absurd rfl h
  | fieldArray => exact Iff.rfl
  | input type =>
    have hopens : allOpens (controlElement f (.input type) p compact) = ["Input"] := by
      simp +decide (disch := decide) [controlElement, opens_void, opened_constant]
    rw [hopens]
    exact Iff.rfl
  | textArea =>
    have hopens : allOpens (controlElement f .textArea p compact) = ["Textarea"] := by
      simp +decide (disch := decide) [controlElement, opens_void, opened_constant]
    rw [hopens]
    exact Iff.rfl
  | checkbox =>
    have hopens : allOpens (controlElement f .checkbox p compact) =
        ["Controller", "Checkbox", "Checkbox", "Checkbox", "Checkbox"] := by
      simp +decide (disch := decide) [controlElement, opens_stacked, opens_mark, opens_label,
        opened_code]
    have hnames : (Usage.ofControl .checkbox).elementNames = ["Controller", "Checkbox"] := rfl
    rw [hopens, hnames]
    simp
  | radioGroup =>
    have hopens : allOpens (controlElement f .radioGroup p compact) =
        ["Controller", "RadioGroup", "Stack"] ++ allOpens (f.options.map radioItem) := by
      simp +decide (disch := decide) [controlElement, opens_stacked, opens_inline, opened_code]
    have hnames : (Usage.ofControl .radioGroup).elementNames =
        ["Controller", "RadioGroup", "Stack"] := rfl
    rw [hopens, hnames, List.mem_append, or_iff_left_iff_imp, allOpens_eq_flatMap]
    -- the buttons of the group are parts of it
    intro hname
    obtain ⟨m, hm, hname⟩ := List.mem_flatMap.mp hname
    obtain ⟨option, -, rfl⟩ := List.mem_map.mp hm
    rw [opens_radioItem] at hname
    obtain rfl := List.eq_of_mem_replicate (n := 4) hname
    decide

/-- A field with a single value opens its control. -/
theorem opens_leafElement {kind : FieldKind} (p : FieldPath) (compact : Bool) :
    Opens (.ofControl kind.control) (leafElement f kind p compact).texts := by
  intro name hname
  have hopens : openedIn (leafElement f kind p compact).texts =
      (leafElement f kind p compact).opens := rfl
  rw [hopens, leafElement]
  by_cases hselect : kind.control = .select
  · rw [if_pos hselect, opens_selectElement, hselect]
    exact Iff.rfl
  · have hwrapper : name ≠ "FieldWrapper" := by
      rintro rfl
      exact absurd hname (by decide)
    rw [if_neg hselect, opens_wrapped, List.mem_cons, or_iff_right hwrapper,
      mem_allOpens_controlElement hselect]

/-- A list opens what shows any list, and the control of its items if they have no fields. -/
theorem opens_listElement_nil (nested : Bool) (f : Field) (p : FieldPath) (handles : Handles) :
    Opens (Usage.union { fieldArray := true, nestedArray := nested }
        (if f.children.isEmpty then .ofControl f.itemKind.control else {}))
      (listElement f p handles []).texts := by
  intro name hname
  have hopens : openedIn (listElement f p handles []).texts = (listElement f p handles []).opens :=
    rfl
  have hlist : Usage.elementNames { fieldArray := true, nestedArray := nested } =
      ["HStack", "Text"] := rfl
  rw [Usage.mem_elementNames_union, hlist, hopens, opens_listElement]
  by_cases hnone : f.children.isEmpty = true
  · have hshell : ∀ name ∈ conditionalNames,
        name ∈ ["FieldWrapper", "VStack", "HStack", "Text", "Button", "HStack", "Button", "Box",
          "Text"] ↔ name ∈ ["HStack", "Text"] := by decide
    have hcontrol := mem_allOpens_controlElement
      (control_of_isPrimitive f.isPrimitive_itemKind).1 f p.item true name
    rw [if_pos hnone, if_pos hnone, ← hshell name hname, ← hcontrol, opens_primitiveItem]
    simp only [List.mem_append, List.mem_cons, List.not_mem_nil, or_false]
    grind
  · have hshell : ∀ name ∈ conditionalNames,
        name ∈ ["FieldWrapper", "VStack", "HStack", "Text", "Button", "Box", "HStack", "Text",
          "Button", "VStack", "Box", "Text"] ↔ name ∈ ["HStack", "Text"] := by decide
    rw [if_neg hnone, if_neg hnone, ← hshell name hname, opens_objectItem]
    exact (or_iff_left List.not_mem_nil).symm

/-- With its items, it opens what it uses. -/
theorem opens_list (h : f.kind? = some .array) (nested : Bool) (p : FieldPath) (handles : Handles)
    {lines : Field → List String}
    (hchildren : ∀ c ∈ f.children, Opens (.ofField true c) (lines c)) :
    Opens (.ofField nested f)
      ((listElement f p handles []).texts ++ f.children.flatMap lines) := by
  have hlist := opens_listElement_nil nested f p handles
  rw [Usage.ofField_of_array h]
  by_cases hnone : f.children.isEmpty = true
  · rw [if_pos hnone] at hlist ⊢
    rw [List.isEmpty_iff.mp hnone, List.flatMap_nil, List.append_nil]
    exact hlist
  · rw [if_neg hnone, Usage.union_empty] at hlist
    rw [if_neg hnone]
    exact hlist.append (.flatMap hchildren)

theorem opens_unsupportedElement (type path : String) :
    Opens {} [unsupportedElement type path] := by
  have hopens : opened (unsupportedElement type path) = [] := by
    rw [unsupportedElement, String.append_assoc]
    exact opened_append (by decide) _
  refine .nothing fun name _ => ?_
  rw [openedIn_cons, hopens]
  exact List.not_mem_nil

/-- In the place of a list of an item nothing is opened besides its inner component. -/
theorem openedIn_handedOn (p : FieldPath) : openedIn (allTexts (handedOn p) ++ ["/>"]) = [] := by
  have hopens : allOpens (handedOn p) = [] := by
    simp (disch := decide) [handedOn, opened_binding, opened_path]
  have hend : openedIn ["/>"] = [] := rfl
  rw [openedIn_append, hend, ← allOpens, hopens]
  rfl

/-- **What a field of an item opens** in its place and in inner components is what it uses. -/
theorem opens_item (f : Field) : ∀ within parent,
    Opens (.ofField true f) (itemTexts within parent f ++ innerTexts parent f) := by
  induction f using Field.induction with
  | mk spec children ih =>
    intro within parent
    cases htype : spec.type with
    | unrecognized raw =>
      have hnone := Field.kind?_ne_array_of_unrecognized (f := ⟨spec, children⟩) htype
      rw [itemTexts_of_unrecognized htype, innerTexts_of_ne_array hnone, List.append_nil,
        Usage.ofField_of_unrecognized htype]
      exact opens_unsupportedElement raw _
    | known kind =>
      by_cases hkind : kind = .array
      · subst hkind
        have harray : (Field.mk spec children).kind? = some .array :=
          Field.kind?_eq_some_iff.mpr htype
        have hlist := opens_list harray true (.variable "path") .own fun c hc =>
          ih c hc (FieldPath.variable "path").item (parent ++ "." ++ spec.name)
        rw [itemTexts_of_array harray, innerTexts_of_array harray, List.append_assoc _ _
          (children.flatMap _)]
        -- the lines in the place of the children stand before those of their inner components
        exact .behind (openedIn_handedOn _)
          (hlist.of_perm ((List.flatMap_append_perm _ _ _).append_left _))
      · have hnone := Field.kind?_ne_array_of_known (f := ⟨spec, children⟩) htype hkind
        rw [itemTexts_of_known htype hkind, innerTexts_of_ne_array hnone, List.append_nil,
          Usage.ofField_of_known htype hkind]
        exact opens_leafElement _ true

/-- What a field at the top opens, with its inner components, is what it uses. -/
theorem opens_top (handles : List (String × Handles)) (f : Field) :
    Opens (.ofField false f) (topTexts handles f ++ topInnerTexts f) := by
  cases htype : f.spec.type with
  | unrecognized raw =>
    rw [topTexts_of_unrecognized htype,
      topInnerTexts_of_ne_array (Field.kind?_ne_array_of_unrecognized htype), List.append_nil,
      Usage.ofField_of_unrecognized htype]
    exact opens_unsupportedElement raw _
  | known kind =>
    by_cases hkind : kind = .array
    · subst hkind
      have harray := Field.kind?_eq_some_iff.mpr htype
      have hlist := opens_list harray false (.literal f.name) (Handles.ofList handles f) fun c _ =>
        opens_item c (FieldPath.literal f.name).item f.name
      rw [topTexts_of_array harray, topInnerTexts_of_array harray, List.append_assoc]
      exact hlist.of_perm ((List.flatMap_append_perm _ _ _).append_left _)
    · rw [topTexts_of_known htype hkind,
        topInnerTexts_of_ne_array (Field.kind?_ne_array_of_known htype hkind), List.append_nil,
        Usage.ofField_of_known htype hkind]
      exact opens_leafElement _ false

end

/-! ## The file -/

section
variable {ids : Identifiers} {form : Form}

/-- The frame opens nothing that is not in every file. -/
theorem not_mem_opened_of_frameText {text : String} (h : FrameText ids form text) :
    ∀ name ∈ conditionalNames, name ∉ opened text := by
  have hnone : ∀ {text : String}, opened text = [] →
      ∀ name ∈ conditionalNames, name ∉ opened text := by
    intro text htext name _
    rw [htext]
    exact List.not_mem_nil
  cases h with
  | constant h =>
    have hconstants : ∀ text ∈ frameConstants, ∀ name ∈ conditionalNames, name ∉ opened text := by
      simp only [opened, tag?, ← Text.chars_eq_toList]
      decide
    exact hconstants _ h
  | title => exact hnone (opened_childText _)
  | @value f h =>
    obtain ⟨c, cs, hkey, hc⟩ := exists_head_propertyKey f.name
    refine hnone (opened_of_head? ?_)
    rw [String.append_assoc, String.append_assoc, String.toList_append, hkey]
    intro hhead
    obtain rfl := Option.some.inj hhead
    exact absurd hc (by decide)
  | schemaImport | props | propsMember | innerProps | innerComponent | component | formCall
  | resolver | hookCall | hookList | submit | exported =>
    simp only [String.append_assoc]
    exact hnone (opened_append (by decide) _)

/-- An inner component opens none of what the file imports. -/
theorem not_mem_opened_innerTag (hids : Identifiers.ofTitle form.title = .ok ids) {tag : String}
    (htag : IsInnerNameOf ids.componentName tag) :
    ∀ name ∈ conditionalNames, name ∉ opened ("<" ++ tag) := by
  obtain ⟨c, rest, hcomponent, hc, -⟩ := (areIdentifiersOf_of_ofTitle hids).pascalCase
  have hidentifier : isIdentifier tag = true :=
    htag.isIdentifier (Identifiers.isWord_of_ofTitle hids)
  have hroot : leadingName tag.toList = tag := by
    rw [leadingName, List.takeWhile_eq_self_iff.mpr (isIdentifierPart_of_isIdentifier hidentifier),
      String.ofList_toList]
  have himported : conditionalNames ⊆ libraryNames .all := by decide
  intro name hname hopened
  rw [opened_open (isTagName_of_isIdentifier hidentifier), hroot, List.mem_singleton] at hopened
  refine htag.not_mem hcomponent hc .all (List.mem_append_left _ (himported ?_))
  exact hopened ▸ hname

/-- **What a component file opens** is what its fields use. -/
theorem opens_fileLines (hids : Identifiers.ofTitle form.title = .ok ids) :
    Opens (.ofFields false form.fields) ((fileLines ids form).map Line.text) := by
  obtain ⟨tags, htags, hperm⟩ := texts_fileLines ids form
  have hinner : ∀ name ∈ conditionalNames, name ∉ openedIn (tags.map ("<" ++ ·)) := by
    intro name hname hopened
    obtain ⟨line, hline, hopened⟩ := mem_openedIn.mp hopened
    obtain ⟨tag, htag, rfl⟩ := List.mem_map.mp hline
    exact not_mem_opened_innerTag hids (htags tag htag) name hname hopened
  have hframe : ∀ name ∈ conditionalNames, name ∉ openedIn ((frame ids form).map Line.text) := by
    intro name hname hopened
    obtain ⟨line, hline, hopened⟩ := mem_openedIn.mp hopened
    obtain ⟨l, hl, rfl⟩ := List.mem_map.mp hline
    exact not_mem_opened_of_frameText (framed_frame l hl) name hname hopened
  have hfields := (Opens.flatMap fun f _ => opens_top (arrayHandles form.fields) f).of_perm
    (List.flatMap_append_perm form.fields _ _)
  have hall := (Opens.nothing hinner).append ((Opens.nothing hframe).append hfields)
  rw [Usage.empty_union, Usage.empty_union] at hall
  exact hall.of_perm hperm

end

end WebForm.Component
