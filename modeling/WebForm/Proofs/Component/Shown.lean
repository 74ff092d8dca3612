import WebForm.Proofs.Component.Written
import WebForm.Proofs.Source.CharacterReference
/-!
# Texts on the page

Where the texts of a field stand in a component file: the label, the helper text and the
placeholder as attributes, the label of a checkbox and the options of a radio group between
elements. What they say there is what the field says, unless a character reference in a text that
is not written as a literal is decoded.
-/

set_option autoImplicit false

namespace WebForm

open Source Component

/-! ## Texts of a field -/

/-- The lines on which a control has texts of its field. -/
def Control.pageLines (f : Field) : Control → List String
  | .input _ | .textArea | .select => ["placeholder=" ++ attributeText f.placeholderText]
  | .checkbox => ["<Checkbox.Label>" ++ childText f.label ++ "</Checkbox.Label>"]
  | .radioGroup => f.options.flatMap fun option =>
      ["<RadioGroup.Item value=" ++ attributeText option ++ ">",
        "<RadioGroup.ItemText>" ++ childText option ++ "</RadioGroup.ItemText>"]
  | .fieldArray => []

namespace Field

/-- The control that is shown for a field of some kind. A list of primitives shows the control of an
item. -/
def shownControl (f : Field) (kind : FieldKind) : Control :=
  if kind = .array ∧ f.children.isEmpty = true then f.itemKind.control else kind.control

/-- The lines on which a field of a known kind has its label, its helper text, and the texts of its
control. -/
def pageLines (f : Field) : List String :=
  match f.kind? with
  | none => []
  | some kind =>
    ("label=" ++ attributeText f.label) ::
      (f.spec.helperText.map fun s => "helperText=" ++ attributeText s).toList ++
      (f.shownControl kind).pageLines f

end Field

namespace Component

open Markup

/-! ## Lines inside of elements -/

section
variable {t tag head tail : String} {m : Markup} {ms attributes content : List Markup}

theorem mem_allTexts (hm : m ∈ ms) (ht : t ∈ m.texts) : t ∈ allTexts ms := by
  induction ms with
  | nil => cases hm
  | cons first rest ih =>
    rw [allTexts_cons, List.mem_append]
    rcases List.mem_cons.mp hm with rfl | hm
    · exact .inl ht
    · exact .inr (ih hm)

theorem mem_texts_void (h : t ∈ allTexts attributes) : t ∈ (Markup.void tag attributes).texts :=
  List.mem_cons_of_mem _ (List.mem_append_left _ h)

theorem mem_texts_block {steps : Nat} (h : t ∈ allTexts ms) :
    t ∈ (Markup.block steps head ms tail).texts :=
  List.mem_cons_of_mem _ (List.mem_append_left _ h)

theorem mem_texts_stacked (h : t ∈ allTexts content) :
    t ∈ (Markup.stacked tag attributes content).texts :=
  List.mem_append_left _ (List.mem_append_right _ (List.mem_cons_of_mem _ h))

theorem mem_texts_inline {inside : List Attribute} (h : t ∈ allTexts content) :
    t ∈ (Markup.inline tag inside content).texts :=
  List.mem_append_left _ (List.mem_cons_of_mem _ h)

theorem mem_texts_wrapped {spec : FieldSpec} {p : FieldPath} (h : t ∈ allTexts content) :
    t ∈ (wrapped spec p content).texts :=
  mem_texts_void (mem_allTexts (List.mem_append_right _ List.mem_cons_self) (mem_texts_block h))

theorem mem_texts_controlled {p : FieldPath} (h : t ∈ m.texts) : t ∈ (controlled p m).texts :=
  mem_texts_void (mem_allTexts (List.mem_cons_of_mem _ (List.mem_cons_of_mem _ List.mem_cons_self))
    (mem_texts_block (mem_allTexts List.mem_cons_self h)))

end

/-! ## Elements of fields -/

section
variable {f : Field} {p : FieldPath} {compact : Bool} {t : String}

theorem mem_helperAttribute {spec : FieldSpec}
    (h : t ∈ (spec.helperText.map fun s => "helperText=" ++ attributeText s).toList) :
    t ∈ allTexts (helperAttribute spec) := by
  rw [helperAttribute]
  cases hhelper : spec.helperText with
  | none =>
    rw [hhelper] at h
    cases h
  | some s =>
    rw [hhelper] at h
    exact h

theorem mem_radioItem {option : String}
    (h : t ∈ ["<RadioGroup.Item value=" ++ attributeText option ++ ">",
      "<RadioGroup.ItemText>" ++ childText option ++ "</RadioGroup.ItemText>"]) :
    t ∈ (radioItem option).texts := by
  have hopen : "<RadioGroup.Item value=" ++ attributeText option ++ ">" =
      "<" ++ "RadioGroup.Item" ++ attributesText [.text "value" option] ++ ">" := by
    have hliteral : "<RadioGroup.Item value=" =
        "<" ++ ("RadioGroup.Item" ++ (" " ++ ("value" ++ "="))) := rfl
    rw [attributesText, List.map_singleton, String.join_cons, String.join_nil, String.append_empty,
      Attribute.write, hliteral]
    simp only [String.append_assoc]
  rcases List.mem_cons.mp h with rfl | h
  · rw [hopen]
    exact List.mem_append_left _ List.mem_cons_self
  · have hlabel : t ∈ (Markup.label "RadioGroup.ItemText" option).texts := h
    exact mem_texts_inline (mem_allTexts
      (List.mem_cons_of_mem _ (List.mem_cons_of_mem _ List.mem_cons_self)) hlabel)

/-- The lines of a control are in the markup of the control. -/
theorem mem_controlElement {control : Control} (hselect : control ≠ .select)
    (h : t ∈ control.pageLines f) : t ∈ allTexts (controlElement f control p compact) := by
  cases control with
  | select => exact absurd rfl hselect
  | fieldArray => cases h
  | input type =>
    exact mem_allTexts List.mem_cons_self (mem_texts_void (mem_allTexts
      (List.mem_append_left _ (List.mem_cons_of_mem _ (List.mem_cons_of_mem _ List.mem_cons_self))) h))
  | textArea =>
    exact mem_allTexts List.mem_cons_self (mem_texts_void (mem_allTexts
      (List.mem_append_left _ (List.mem_append_left _
        (List.mem_cons_of_mem _ List.mem_cons_self))) h))
  | checkbox =>
    have hlabel : t ∈ (Markup.label "Checkbox.Label" f.label).texts := h
    exact mem_allTexts List.mem_cons_self (mem_texts_controlled (mem_texts_stacked
      (mem_allTexts (List.mem_cons_of_mem _ (List.mem_cons_of_mem _ List.mem_cons_self)) hlabel)))
  | radioGroup =>
    obtain ⟨option, hoption, ht⟩ := List.mem_flatMap.mp h
    exact mem_allTexts List.mem_cons_self (mem_texts_controlled (mem_texts_stacked
      (mem_allTexts List.mem_cons_self (mem_texts_inline
        (mem_allTexts (List.mem_map_of_mem hoption) (mem_radioItem ht))))))

/-- The lines of the label and of the helper text are in any wrapper. -/
theorem mem_wrapped_of_spec {content : List Markup}
    (h : t ∈ ("label=" ++ attributeText f.label) ::
      (f.spec.helperText.map fun s => "helperText=" ++ attributeText s).toList) :
    t ∈ (wrapped f.spec p content).texts := by
  refine mem_texts_void ?_
  rw [allTexts_append, wrapperAttributes, allTexts_append]
  refine List.mem_append_left _ ?_
  rcases List.mem_cons.mp h with rfl | h
  · exact List.mem_append_left _ List.mem_cons_self
  · exact List.mem_append_right _ (mem_helperAttribute h)

theorem pageLines_of_kind {kind : FieldKind} (h : f.kind? = some kind) :
    f.pageLines = ("label=" ++ attributeText f.label) ::
      (f.spec.helperText.map fun s => "helperText=" ++ attributeText s).toList ++
      (f.shownControl kind).pageLines f := by
  rw [Field.pageLines, h]

/-- The lines of a field with a single value are in its element. -/
theorem pageLines_subset_leafElement {kind : FieldKind} (hkind : f.kind? = some kind)
    (harray : kind ≠ .array) : f.pageLines ⊆ (leafElement f kind p compact).texts := by
  have hcontrol : f.shownControl kind = kind.control := if_neg fun h => harray h.1
  intro t ht
  rw [pageLines_of_kind hkind, hcontrol] at ht
  rw [leafElement]
  split
  · next hselect =>
    rw [hselect, List.mem_append, List.mem_cons] at ht
    refine mem_texts_void ?_
    rw [allTexts_append, allTexts_append]
    rcases ht with (rfl | hhelper) | hplaceholder
    · exact List.mem_append_left _ (List.mem_append_left _
        (List.mem_cons_of_mem _ List.mem_cons_self))
    · exact List.mem_append_left _ (List.mem_append_right _ (mem_helperAttribute hhelper))
    · refine List.mem_append_left _ (List.mem_append_left _ ?_)
      exact mem_allTexts (m := placeholderAttribute f) (by simp) hplaceholder
  · next hselect =>
    rcases List.mem_append.mp ht with hspec | hshown
    · exact mem_wrapped_of_spec hspec
    · exact mem_texts_wrapped (mem_controlElement hselect hshown)

/-- The lines of a list are in its element. -/
theorem pageLines_subset_listElement (hkind : f.kind? = some .array) (handles : Handles) :
    f.pageLines ⊆ (listElement f p handles []).texts := by
  intro t ht
  rw [pageLines_of_kind hkind, Field.shownControl] at ht
  rcases List.mem_append.mp ht with hspec | hshown
  · exact mem_wrapped_of_spec hspec
  · by_cases hchildren : f.children.isEmpty = true
    · rw [if_pos ⟨rfl, hchildren⟩] at hshown
      have hselect := (control_of_isPrimitive f.isPrimitive_itemKind).1
      have hitem : t ∈ (primitiveItem f p.item handles).texts := by
        refine mem_texts_inline ?_
        rw [allTexts_append]
        exact List.mem_append_left _ (mem_controlElement hselect hshown)
      rw [listElement, if_pos hchildren]
      exact mem_texts_wrapped (mem_allTexts List.mem_cons_self (mem_texts_inline (mem_allTexts
        (List.mem_cons_of_mem _ (List.mem_cons_of_mem _ List.mem_cons_self))
        (mem_texts_block (mem_allTexts List.mem_cons_self hitem)))))
    · rw [if_neg fun h => hchildren h.2] at hshown
      cases hshown

end

/-! ## The file -/

/-- All fields that are reached in a field of an item have their lines among those that the field
brings. -/
theorem everywhere_pageLines_subset (f : Field) : ∀ within parent (texts : List String),
    itemTexts within parent f ++ innerTexts parent f ⊆ texts →
      Field.Everywhere (fun g => g.pageLines ⊆ texts) f := by
  induction f using Field.induction with
  | mk spec children ih =>
    intro within parent texts hsub
    obtain ⟨hitem, hinner⟩ := List.append_subset.mp hsub
    rw [Field.everywhere_iff]
    constructor
    · cases hkind : (Field.mk spec children).kind? with
      | none =>
        rw [Field.pageLines, hkind]
        exact List.nil_subset _
      | some kind =>
        by_cases harray : kind = .array
        · rw [harray] at hkind
          rw [innerTexts_of_array hkind, List.append_subset, List.append_subset] at hinner
          exact List.Subset.trans (pageLines_subset_listElement hkind _) hinner.1.1
        · rw [itemTexts_of_known (Field.kind?_eq_some_iff.mp hkind) harray] at hitem
          exact List.Subset.trans (pageLines_subset_leafElement hkind harray) hitem
    · intro hkind c hc
      rw [innerTexts_of_array hkind, List.append_subset, List.append_subset] at hinner
      refine ih c hc (FieldPath.variable "path").item (parent ++ "." ++ spec.name) texts
        (List.append_subset.mpr ⟨?_, ?_⟩)
      · exact fun t ht => hinner.1.2 (List.mem_flatMap.mpr ⟨c, hc, ht⟩)
      · exact fun t ht => hinner.2 (List.mem_flatMap.mpr ⟨c, hc, ht⟩)

theorem everywhere_pageLines_subset_top (fields : List Field) (f : Field) {texts : List String}
    (hsub : topTexts (arrayHandles fields) f ++ topInnerTexts f ⊆ texts) :
    Field.Everywhere (fun g => g.pageLines ⊆ texts) f := by
  obtain ⟨htop, hinner⟩ := List.append_subset.mp hsub
  rw [Field.everywhere_iff]
  constructor
  · cases hkind : f.kind? with
    | none =>
      rw [Field.pageLines, hkind]
      exact List.nil_subset _
    | some kind =>
      by_cases harray : kind = .array
      · rw [harray] at hkind
        rw [topTexts_of_array hkind, List.append_subset] at htop
        exact List.Subset.trans (pageLines_subset_listElement hkind _) htop.1
      · rw [topTexts_of_known (Field.kind?_eq_some_iff.mp hkind) harray] at htop
        exact List.Subset.trans (pageLines_subset_leafElement hkind harray) htop
  · intro hkind c hc
    rw [topTexts_of_array hkind, List.append_subset] at htop
    rw [topInnerTexts_of_array hkind] at hinner
    refine everywhere_pageLines_subset c (FieldPath.literal f.name).item f.name texts
      (List.append_subset.mpr ⟨?_, ?_⟩)
    · exact fun t ht => htop.2 (List.mem_flatMap.mpr ⟨c, hc, ht⟩)
    · exact fun t ht => hinner (List.mem_flatMap.mpr ⟨c, hc, ht⟩)

/-- Every field that is reached in a form has its lines in the file. -/
theorem pageLines_subset_fileLines (ids : Identifiers) (form : Form) :
    ∀ p ∈ form.places, p.field.pageLines ⊆ (fileLines ids form).map Line.text := by
  obtain ⟨names, -, hperm⟩ := texts_fileLines ids form
  have hsub : ∀ f ∈ form.fields, topTexts (arrayHandles form.fields) f ++ topInnerTexts f ⊆
      (fileLines ids form).map Line.text := by
    intro f hf t ht
    refine hperm.mem_iff.mpr (List.mem_append_right _ (List.mem_append_right _ ?_))
    rcases List.mem_append.mp ht with ht | ht
    · exact List.mem_append_left _ (List.mem_flatMap.mpr ⟨f, hf, ht⟩)
    · exact List.mem_append_right _ (List.mem_flatMap.mpr ⟨f, hf, ht⟩)
  have hall : Field.EverywhereIn (fun g => g.pageLines ⊆ (fileLines ids form).map Line.text)
      form.fields :=
    Field.everywhereIn_iff_forall_mem.mpr fun f hf =>
      everywhere_pageLines_subset_top form.fields f (hsub f hf)
  exact Field.everywhereIn_iff_forall_places.mp hall

/-- **What the texts of a form say on the page.** Every field of a known kind that is reached in a
form has lines for its label, its helper text, its placeholder and its options in the component
file. What is written there for a text, as an attribute or between elements, always says something;
and it says the text itself exactly when the text is written as a literal or no character reference
stands in it. Between elements this is said of texts of one line, without white space at either
end. -/
theorem texts_on_page (refs : CharacterReferences) :
    (∀ (ids : Identifiers) (form : Form), ∀ p ∈ form.places, ∀ t ∈ p.field.pageLines,
      ∃ l ∈ fileLines ids form, l.text = t) ∧
    (∀ s, ∃ said, attributeValue? refs (attributeText s) = some said ∧
      (said = s ↔ attributeText s = braced (quote s) ∨ ¬ refs.OccursIn s.toList)) ∧
    ∀ s, Unbroken s → Text.trim s = s → ∃ said, childValue? refs (childText s) = some said ∧
      (said = s ↔ childText s = braced (quote s) ∨ ¬ refs.OccursIn s.toList) := by
  have hsaid : ∀ (written s : String),
      ((if written = braced (quote s) then s else refs.decode s) = s ↔
        written = braced (quote s) ∨ ¬ refs.OccursIn s.toList) := by
    intro written s
    by_cases hliteral : written = braced (quote s)
    · rw [if_pos hliteral]
      exact iff_of_true rfl (.inl hliteral)
    · rw [if_neg hliteral, CharacterReferences.decode_eq_self_iff, or_iff_right hliteral]
  refine ⟨fun ids form p hp t ht => ?_, fun s => ?_, fun s hline htrim => ?_⟩
  · obtain ⟨l, hl, htext⟩ := List.mem_map.mp (pageLines_subset_fileLines ids form p hp ht)
    exact ⟨l, hl, htext⟩
  · exact ⟨_, attributeValue?_attributeText s, hsaid _ s⟩
  · exact ⟨_, childValue?_childText hline htrim, hsaid _ s⟩

/-- A text that is a reference says the character of the reference, as an attribute and between
elements. -/
theorem reference_is_decoded :
    attributeValue? .predefined (attributeText "&amp;") = some "&" ∧
      Unbroken "&amp;" ∧ Text.trim "&amp;" = "&amp;" ∧
      childValue? .predefined (childText "&amp;") = some "&" := by
  decide +kernel

end Component

end WebForm
