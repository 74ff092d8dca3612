import WebForm.Proofs.Component.Reading
/-!
# What each element does with paths

One lemma for each element that a form is rendered with: which paths it hands on, and in which
scope what is inside it is read. Labels, sizes, buttons, headers and notes hand on nothing.
-/

set_option autoImplicit false

namespace WebForm.Component

open Script Source

/-! ## Pieces one after the other -/

namespace Markup

section
variable {item : Nat → Nat} {components : List (String × Meaning)} {s : Scope}

@[simp] theorem allUses_nil : allUses item components s [] = [] := rfl

@[simp] theorem allUses_cons (m : Markup) (rest : List Markup) :
    allUses item components s (m :: rest) =
      m.uses item components s ++ allUses item components s rest := rfl

@[simp] theorem allUses_append (ms ms' : List Markup) :
    allUses item components s (ms ++ ms') =
      allUses item components s ms ++ allUses item components s ms' := by
  induction ms with
  | nil => rfl
  | cons m rest ih => rw [List.cons_append, allUses_cons, ih, allUses_cons, List.append_assoc]

theorem allUses_eq_nil {ms : List Markup} (h : ∀ m ∈ ms, m.uses item components s = []) :
    allUses item components s ms = [] := by
  induction ms with
  | nil => rfl
  | cons m rest ih =>
    rw [allUses_cons, h m List.mem_cons_self, List.nil_append]
    exact ih fun m' hm' => h m' (List.mem_cons_of_mem m hm')

end

end Markup

open Markup Scope

/-! ## Single values -/

section
variable {item : Nat → Nat} {components : List (String × Meaning)} {s : Scope}

@[simp] theorem allUses_sizeAttribute (compact : Bool) :
    allUses item components s (sizeAttribute compact) = [] := by
  cases compact with
  | false => rfl
  | true => simp (disch := decide) [sizeAttribute, Markup.uses, uses_constant]

@[simp] theorem allUses_helperAttribute (spec : FieldSpec) :
    allUses item components s (helperAttribute spec) = [] := by
  rw [helperAttribute]
  cases spec.helperText with
  | none => rfl
  | some text => simp (disch := decide) [Markup.uses, uses_text]

/-! An element is no inner component unless one of its attributes is a `path`. -/

@[simp] theorem handed_nil (s : Scope) : s.handed [] = none := rfl

@[simp] theorem handed_attr_cons (s : Scope) (a : Attribute) (rest : List Markup) :
    s.handed (.attr a :: rest) =
      (((s.uses a.write).find? (·.slot = .path)).map Use.reading).or (s.handed rest) := rfl

@[simp] theorem handed_block_cons (s : Scope) (steps : Nat) (head tail : String)
    (inner rest : List Markup) :
    s.handed (.block steps head inner tail :: rest) = s.handed rest := rfl

@[simp] theorem handed_append (s : Scope) (ms ms' : List Markup) :
    s.handed (ms ++ ms') = (s.handed ms).or (s.handed ms') := by
  induction ms with
  | nil => rfl
  | cons m rest ih => cases m <;> simp [handed, ih, Option.or_assoc]

@[simp] theorem handed_sizeAttribute (s : Scope) (compact : Bool) :
    s.handed (sizeAttribute compact) = none := by
  cases compact with
  | false => rfl
  | true => simp (disch := decide) [sizeAttribute, uses_constant]

@[simp] theorem handed_helperAttribute (s : Scope) (spec : FieldSpec) :
    s.handed (helperAttribute spec) = none := by
  rw [helperAttribute]
  cases spec.helperText with
  | none => rfl
  | some text => simp (disch := decide) [uses_text]

/-! Only one line opens what is shown for each item. -/

theorem opensItems_map (handle : String) :
    opensItems ("\x7b" ++ handle ++ ".map((item, index) => (") = true := by
  rw [opensItems, String.toList_append]
  exact decide_eq_true (List.suffix_append _ _)

theorem opensItems_length (handle : String) :
    opensItems ("\x7b" ++ handle ++ ".length === 0 && (") = false := by
  rw [opensItems, String.toList_append]
  refine decide_eq_false fun hsuffix => ?_
  -- of two suffixes of one text, one is a suffix of the other
  rcases List.suffix_or_suffix_of_suffix hsuffix (List.suffix_append _ _) with h | h
  · exact absurd h (by decide)
  · exact absurd h (by decide)

@[simp] theorem uses_button (onClick palette text : String) :
    (button onClick palette text).uses item components s = [] := by
  simp (disch := decide) [button, Markup.uses, uses_code, uses_constant]

@[simp] theorem uses_wrapped (spec : FieldSpec) (p : FieldPath) (content : List Markup) :
    (wrapped spec p content).uses item components s =
      ⟨.name, s.readValue p.inAttribute.toList⟩ :: allUses item components s content := by
  have hhead : opensItems "field=\x7b" = false := rfl
  simp (disch := decide) [wrapped, wrapperAttributes, requiredAttribute, Markup.uses, uses_text,
    uses_binding, uses_code, hhead]

@[simp] theorem uses_controlled (p : FieldPath) (element : Markup) :
    (controlled p element).uses item components s =
      ⟨.name, s.readValue p.inAttribute.toList⟩ :: element.uses item components s := by
  have hhead : opensItems "render=\x7b(\x7b field: controllerField \x7d) => (" = false := rfl
  simp (disch := decide) [controlled, Markup.uses, uses_binding, hhead]

@[simp] theorem uses_optionsAttribute (options : List String) :
    (optionsAttribute options).uses item components s = [] := by
  rw [optionsAttribute]
  split
  · rw [Markup.uses]
    exact uses_code (by decide) s _
  · refine allUses_eq_nil fun m hm => ?_
    obtain ⟨option, -, rfl⟩ := List.mem_map.mp hm
    rfl

@[simp] theorem handed_optionsAttribute (options : List String) (rest : List Markup) :
    s.handed (optionsAttribute options :: rest) = s.handed rest := by
  rw [optionsAttribute]
  split
  · simp (disch := decide) [uses_code]
  · rfl

@[simp] theorem uses_selectElement (f : Field) (p : FieldPath) (compact : Bool) :
    (selectElement f p compact).uses item components s =
      [⟨.name, s.readValue p.inAttribute.toList⟩] := by
  simp (disch := decide) [selectElement, requiredAttribute, placeholderAttribute, Markup.uses,
    uses_text, uses_binding, uses_code]

/-- What the control of a single value is handed: registered inputs, and controllers. -/
def controlUses (s : Scope) (control : Control) (p : FieldPath) : List Use :=
  match control with
  | .input _ | .textArea => [⟨.register, .value (evaluate s.lookup p.inCall)⟩]
  | .checkbox | .radioGroup => [⟨.name, s.readValue p.inAttribute.toList⟩]
  | .select | .fieldArray => []

@[simp] theorem allUses_controlElement (f : Field) (control : Control) (p : FieldPath)
    (compact : Bool) :
    allUses item components s (controlElement f control p compact) = controlUses s control p := by
  have hradio : allUses item components s (f.options.map radioItem) = [] := by
    refine allUses_eq_nil fun m hm => ?_
    obtain ⟨option, -, rfl⟩ := List.mem_map.mp hm
    simp (disch := decide) [radioItem, Markup.uses, uses_text]
  cases control <;>
    simp (disch := decide) [controlElement, controlUses, placeholderAttribute, Markup.uses,
      uses_constant, uses_text, uses_code, hradio]

/-- What a field with a single value is handed. -/
theorem uses_leafElement (f : Field) {kind : FieldKind} (p : FieldPath) (compact : Bool) :
    (leafElement f kind p compact).uses item components s =
      ⟨.name, s.readValue p.inAttribute.toList⟩ :: controlUses s kind.control p := by
  rw [leafElement]
  by_cases hselect : kind.control = .select
  · rw [if_pos hselect, uses_selectElement, hselect]
    rfl
  · rw [if_neg hselect, uses_wrapped, allUses_controlElement]

/-! ## Lists -/

@[simp] theorem uses_listHeader (f : Field) (handles : Handles) :
    (listHeader f handles).uses item components s = [] := by
  simp (disch := decide) [listHeader, Markup.uses, uses_constant]

@[simp] theorem uses_emptyNote (f : Field) : (emptyNote f).uses item components s = [] := by
  simp (disch := decide) [emptyNote, Markup.uses, uses_constant, uses_code]

@[simp] theorem uses_primitiveItem (f : Field) (p : FieldPath) (handles : Handles) :
    (primitiveItem f p handles).uses item components s = controlUses s f.itemKind.control p := by
  simp (disch := decide) [primitiveItem, removeButton, Markup.uses, uses_code]

@[simp] theorem uses_objectItem (f : Field) (handles : Handles) (fields : List Markup) :
    (objectItem f handles fields).uses item components s = allUses item components s fields := by
  simp (disch := decide) [objectItem, removeButton, Markup.uses, uses_code, uses_constant]

/-- What a list is handed. What is inside its items is read in their scope. -/
theorem uses_listElement (f : Field) (p : FieldPath) (handles : Handles) (fields : List Markup) :
    (listElement f p handles fields).uses item components s =
      ⟨.name, s.readValue p.inAttribute.toList⟩ ::
        if f.children.isEmpty then controlUses (s.enter item) f.itemKind.control p.item
        else allUses item components (s.enter item) fields := by
  -- the header and the note of an empty list are outside the items, and hand on nothing
  by_cases hnone : f.children.isEmpty = true <;>
    simp (disch := decide) [listElement, Markup.uses, uses_constant, opensItems_map,
      opensItems_length, hnone]

/-- An inner component is handed its path, and is read with what this path comes to. -/
theorem uses_innerElement (name : String) (p : FieldPath) :
    (Markup.void name
      [.attr (.binding "control"), .attr (.binding "register"), .attr (.binding "formState"),
        .attr (.path "path" p)]).uses item components s =
      ⟨.path, s.readValue p.inAttribute.toList⟩ ::
        match components.lookup name with
        | some meaning => meaning s.depth (s.readValue p.inAttribute.toList).text?
        | none => [] := by
  have hhanded : s.handed
      [.attr (.binding "control"), .attr (.binding "register"), .attr (.binding "formState"),
        .attr (.path "path" p)] = some (s.readValue p.inAttribute.toList) := by
    simp (disch := decide) [uses_binding]
  rw [Markup.uses, hhanded]
  cases components.lookup name <;> simp (disch := decide) [Markup.uses, uses_binding]

/-! ## The page -/

theorem allUses_spaced (ms : List Markup) :
    allUses item components s (spaced ms) = allUses item components s ms := by
  induction ms with
  | nil => rfl
  | cons m rest ih => simp [spaced, Markup.uses, ih]

/-- The page adds nothing to what the fields hand on. -/
theorem uses_pageMarkup (title : String) (fields : List Markup) :
    (pageMarkup title fields).uses item components s = allUses item components s fields := by
  simp (disch := decide) [pageMarkup, Markup.uses, uses_constant, uses_code, allUses_spaced]

end

end WebForm.Component
