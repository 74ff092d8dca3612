import WebForm.Component.Render
/-!
# Texts of markup

What stands on the lines of some markup, without how deep the lines stand. Most of what is read from
a line of markup is read from its text alone, so that it can be said of `texts`.

The element of a list is written around the elements of the fields in its items. Up to the order of
the lines it has the lines that it would have without any fields, and those of the fields.
-/

set_option autoImplicit false

namespace WebForm.Component

open Source

/-- What an attribute is written with first. -/
def Attribute.opening : Attribute → String
  | .constant name _ | .text name _ | .code name _ | .binding name | .path name _ => name
  | .register _ => "\x7b...register("

theorem Attribute.exists_write_eq (a : Attribute) : ∃ rest, a.write = a.opening ++ rest := by
  cases a with
  | constant name value => exact ⟨_, by rw [write, opening, String.append_assoc, String.append_assoc]⟩
  | text name value => exact ⟨_, by rw [write, opening, String.append_assoc]⟩
  | code name value => exact ⟨_, by rw [write, opening, String.append_assoc]⟩
  | binding name => exact ⟨_, by rw [write, opening, String.append_assoc]⟩
  | path name p => exact ⟨_, by rw [write, opening, String.append_assoc]⟩
  | register p =>
    refine ⟨p.inCall ++ (")" ++ "\x7d"), ?_⟩
    have hopen : "\x7b...register(" = "\x7b" ++ "...register(" := rfl
    rw [write, opening, braced, hopen]
    simp only [String.append_assoc]

namespace Markup

mutual

/-- The texts of the lines of a piece of markup. -/
def texts : Markup → List String
  | .blank => [""]
  | .text line => [line]
  | .attr a => [a.write]
  | .unsupported type path => [unsupportedElement type path]
  | .block _ head inner tail => head :: allTexts inner ++ [tail]
  | .void tag attributes => ("<" ++ tag) :: allTexts attributes ++ ["/>"]
  | .stacked tag attributes content =>
    ("<" ++ tag) :: allTexts attributes ++ ">" :: allTexts content ++ [closing tag]
  | .inline tag attributes content =>
    ("<" ++ tag ++ attributesText attributes ++ ">") :: allTexts content ++ [closing tag]
  | .mark tag => ["<" ++ tag ++ " />"]
  | .label tag s => ["<" ++ tag ++ ">" ++ childText s ++ closing tag]
termination_by structural m => m

/-- The texts of the lines of pieces one after the other. -/
def allTexts : List Markup → List String
  | [] => []
  | m :: rest => texts m ++ allTexts rest
termination_by structural ms => ms

end

mutual

/-- How deep markup stands does not show in its texts. -/
theorem map_text_lines (m : Markup) (depth : Nat) : (m.lines depth).map Line.text = m.texts := by
  match m with
  | .blank | .text _ | .attr _ | .unsupported _ _ | .mark _ | .label _ _ => rfl
  | .block steps head inner tail => simp [lines, texts, map_text_allLines inner]
  | .void tag attributes => simp [lines, texts, map_text_allLines attributes]
  | .stacked tag attributes content =>
    simp [lines, texts, map_text_allLines attributes, map_text_allLines content]
  | .inline tag attributes content => simp [lines, texts, map_text_allLines content]

theorem map_text_allLines (ms : List Markup) (depth : Nat) :
    (allLines depth ms).map Line.text = allTexts ms := by
  match ms with
  | [] => rfl
  | m :: rest =>
    rw [allLines, List.map_append, map_text_lines m, map_text_allLines rest, allTexts]

end

@[simp] theorem allTexts_nil : allTexts [] = [] := rfl

@[simp] theorem allTexts_cons (m : Markup) (rest : List Markup) :
    allTexts (m :: rest) = m.texts ++ allTexts rest := rfl

@[simp] theorem allTexts_append (ms ms' : List Markup) :
    allTexts (ms ++ ms') = allTexts ms ++ allTexts ms' := by
  induction ms with
  | nil => rfl
  | cons m rest ih => rw [List.cons_append, allTexts_cons, ih, allTexts_cons, List.append_assoc]

/-! ### What holds of all lines -/

/-- Something that holds of all lines of a piece of markup. -/
def Each (P : String → Prop) (m : Markup) : Prop := ∀ text ∈ m.texts, P text

/-- Something that holds of all lines of pieces one after the other. -/
def EachOf (P : String → Prop) (ms : List Markup) : Prop := ∀ text ∈ allTexts ms, P text

section
variable {P : String → Prop}

@[simp] theorem eachOf_nil : EachOf P [] := List.forall_mem_nil P

@[simp] theorem eachOf_cons {m : Markup} {rest : List Markup} :
    EachOf P (m :: rest) ↔ m.Each P ∧ EachOf P rest := by
  rw [EachOf, allTexts_cons, List.forall_mem_append]
  exact Iff.rfl

@[simp] theorem eachOf_append {ms ms' : List Markup} :
    EachOf P (ms ++ ms') ↔ EachOf P ms ∧ EachOf P ms' := by
  rw [EachOf, allTexts_append, List.forall_mem_append]
  exact Iff.rfl

theorem eachOf_iff_forall_mem {ms : List Markup} : EachOf P ms ↔ ∀ m ∈ ms, m.Each P := by
  induction ms with
  | nil => simp
  | cons m rest ih => rw [eachOf_cons, ih, List.forall_mem_cons]

@[simp] theorem each_blank : Markup.blank.Each P ↔ P "" := List.forall_mem_singleton

@[simp] theorem each_text {line : String} : (Markup.text line).Each P ↔ P line :=
  List.forall_mem_singleton

@[simp] theorem each_attr {a : Attribute} : (Markup.attr a).Each P ↔ P a.write :=
  List.forall_mem_singleton

theorem each_block {steps : Nat} {head tail : String} {inner : List Markup} :
    (Markup.block steps head inner tail).Each P ↔ P head ∧ EachOf P inner ∧ P tail := by
  simp [Each, EachOf, texts, or_imp, forall_and]

theorem each_void {tag : String} {attributes : List Markup} :
    (Markup.void tag attributes).Each P ↔ P ("<" ++ tag) ∧ EachOf P attributes ∧ P "/>" := by
  simp [Each, EachOf, texts, or_imp, forall_and]

theorem each_stacked {tag : String} {attributes content : List Markup} :
    (Markup.stacked tag attributes content).Each P ↔
      P ("<" ++ tag) ∧ EachOf P attributes ∧ P ">" ∧ EachOf P content ∧ P (closing tag) := by
  simp [Each, EachOf, texts, or_imp, forall_and]

theorem each_inline {tag : String} {attributes : List Attribute} {content : List Markup} :
    (Markup.inline tag attributes content).Each P ↔
      P ("<" ++ tag ++ attributesText attributes ++ ">") ∧ EachOf P content ∧
        P (closing tag) := by
  simp [Each, EachOf, texts, or_imp, forall_and]

theorem each_mark {tag : String} :
    (Markup.mark tag).Each P ↔ P ("<" ++ tag ++ " />") := List.forall_mem_singleton

theorem each_label {tag s : String} :
    (Markup.label tag s).Each P ↔ P ("<" ++ tag ++ ">" ++ childText s ++ closing tag) :=
  List.forall_mem_singleton

end

end Markup

open Markup

/-! ## Lists -/

/-- Items without fields have a control of their own. -/
theorem control_of_isPrimitive {kind : FieldKind} (h : kind.isPrimitive = true) :
    kind.control ≠ .select ∧ kind.control ≠ .fieldArray := by
  cases kind with
  | select | radio | array => cases h
  | text | email | password | number | textArea | boolean => decide

/-- The element of a list has the lines of the fields of its items among its own. -/
theorem perm_texts_listElement (f : Field) (p : FieldPath) (handles : Handles)
    (fields : List Markup) :
    (listElement f p handles fields).texts.Perm
      ((listElement f p handles []).texts ++
        if f.children.isEmpty then [] else allTexts fields) := by
  by_cases hnone : f.children.isEmpty = true
  · simp [listElement, hnone]
  · rw [List.perm_iff_count]
    intro text
    simp only [listElement, objectItem, wrapped, texts, hnone, allTexts_append, allTexts_cons,
      allTexts_nil, List.count_append, List.count_cons, List.count_nil, Bool.false_eq_true,
      if_false]
    omega

end WebForm.Component
