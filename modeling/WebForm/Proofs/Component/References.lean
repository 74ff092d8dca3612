import Mathlib.Data.List.Forall2
import WebForm.Proofs.Component.Bindings
import WebForm.Proofs.Component.Hooks
/-!
# Handles that a list refers to

The element of a list refers to the handles of the list and to nothing else that a component binds
for a list: it counts, maps and compares the items, and its buttons append and remove one. The
references are read from the lines of the element. Whatever is inside the items adds none, because
a list inside an item has a component of its own.

Handles are found by the name of the list when it is rendered. Where the names at the top are
distinct, these are the handles of the hook that is told this name.
-/

set_option autoImplicit false

namespace WebForm.Component

open Script Source Identifier Markup

/-! ## Reading references -/

/-- The name at the start of an expression between braces that takes a member of it. -/
def collection? (text : String) : Option String :=
  match text.toList with
  | '\x7b' :: cs =>
    if isIdentifier (leadingName cs) ∧ (cs.drop (leadingName cs).length).head? = some '.' then
      some (leadingName cs)
    else none
  | _ => none

/-- The name of the function that is called. -/
def callee? : Expr → Option String
  | .call (.name function) _ => some function
  | _ => none

/-- The function that is called when an element is clicked on. -/
def clicked? (text : String) : Option String :=
  (((handler? text).bind tokens?).bind thunk?).bind callee?

/-- The handles that a text refers to. -/
def referencesOf (text : String) : List String :=
  (collection? text).toList ++ (clicked? text).toList

/-- The handles that some lines refer to. -/
def references (ls : List Line) : List String := ls.flatMap fun l => referencesOf l.text

@[simp] theorem references_nil : references [] = [] := rfl

@[simp] theorem references_cons (l : Line) (rest : List Line) :
    references (l :: rest) = referencesOf l.text ++ references rest := List.flatMap_cons

@[simp] theorem references_append (ls ls' : List Line) :
    references (ls ++ ls') = references ls ++ references ls' := List.flatMap_append

/-! ## Texts that refer to nothing -/

/-- A text that starts like no handler and no member of a name, whatever comes behind it. -/
def startsQuiet (head : String) : Bool :=
  (match head.toList with
    | '\x7b' :: c :: _ => !isIdentifierPart c
    | c :: _ => c ≠ '\x7b'
    | [] => false) &&
  ("onClick=\x7b".toList.zip head.toList).any fun (c, d) => c ≠ d

theorem collection?_of_head? {text : String} (h : text.toList.head? ≠ some '\x7b') :
    collection? text = none := by
  rw [collection?]
  split
  · next cs hchars =>
    rw [hchars] at h
    exact absurd rfl h
  · rfl

/-- What stands behind the brace is no name. -/
theorem collection?_of_second {text : String} {c : Char} {cs : List Char}
    (htext : text.toList = '\x7b' :: c :: cs) (hc : isIdentifierPart c = false) :
    collection? text = none := by
  have hname : leadingName (c :: cs) = "" := by
    rw [leadingName, List.takeWhile_cons_of_neg (by rw [hc]; exact Bool.false_ne_true)]
  rw [collection?, htext]
  refine if_neg fun h => ?_
  rw [hname] at h
  exact absurd h.1 (by decide)

theorem clicked?_of_not_prefix {text : String} (h : ¬ "onClick=\x7b".toList <+: text.toList) :
    clicked? text = none := by
  rw [clicked?, handler?, if_neg h]
  rfl

theorem referencesOf_eq_nil {text : String} (h : collection? text = none)
    (hhandler : ¬ "onClick=\x7b".toList <+: text.toList) : referencesOf text = [] := by
  rw [referencesOf, h, clicked?_of_not_prefix hhandler]
  rfl

theorem referencesOf_append {head : String} (h : startsQuiet head = true) (rest : String) :
    referencesOf (head ++ rest) = [] := by
  rw [startsQuiet, Bool.and_eq_true] at h
  refine referencesOf_eq_nil ?_ ?_
  · have hchars := String.toList_append (s := head) (t := rest)
    cases hhead : head.toList with
    | nil =>
      rw [hhead] at h
      exact absurd h.1 Bool.false_ne_true
    | cons c cs =>
      rw [hhead] at h hchars
      by_cases hc : c = '\x7b'
      · subst hc
        cases cs with
        | nil => exact absurd h.1 (by decide)
        | cons d ds => exact collection?_of_second hchars (by simpa using h.1)
      · refine collection?_of_head? ?_
        rw [hchars]
        exact fun hsame => hc (Option.some.inj hsame)
  · rw [String.toList_append]
    exact Scope.not_prefix_append _ h.2

/-- A member of a name, between braces. -/
theorem referencesOf_collection {name rest : String} (hname : isIdentifier name = true)
    (hrest : rest.toList.head? = some '.') : referencesOf ("\x7b" ++ name ++ rest) = [name] := by
  have hchars : ("\x7b" ++ name ++ rest).toList = '\x7b' :: (name.toList ++ rest.toList) := by
    rw [String.toList_append, String.toList_append]
    rfl
  have hleading : leadingName (name.toList ++ rest.toList) = name := by
    rw [leadingName, takeWhile_append_of_head (isIdentifierPart_of_isIdentifier hname),
      String.ofList_toList]
    intro c hc
    rw [hrest] at hc
    obtain rfl := Option.some.inj hc
    decide
  have hbehind : (name.toList ++ rest.toList).drop name.length = rest.toList :=
    List.drop_left' String.length_toList
  have hcollection : collection? ("\x7b" ++ name ++ rest) = some name := by
    rw [collection?, hchars]
    simp only [hleading, hbehind]
    exact if_pos ⟨hname, hrest⟩
  have hclicked : clicked? ("\x7b" ++ name ++ rest) = none := by
    refine clicked?_of_not_prefix ?_
    rw [String.append_assoc, String.toList_append]
    exact Scope.not_prefix_append _ (by decide)
  rw [referencesOf, hcollection, hclicked]
  rfl

/-! ## Attributes -/

section
variable {name : String}

theorem referencesOf_constant (h : startsQuiet name = true) (value : String) :
    referencesOf (Attribute.constant name value).write = [] := by
  simp only [Attribute.write, String.append_assoc]
  exact referencesOf_append h _

theorem referencesOf_text (h : startsQuiet name = true) (value : String) :
    referencesOf (Attribute.text name value).write = [] := by
  simp only [Attribute.write, String.append_assoc]
  exact referencesOf_append h _

theorem referencesOf_code (h : startsQuiet name = true) (value : String) :
    referencesOf (Attribute.code name value).write = [] := by
  simp only [Attribute.write, String.append_assoc]
  exact referencesOf_append h _

theorem referencesOf_binding (h : startsQuiet name = true) :
    referencesOf (Attribute.binding name).write = [] := by
  simp only [Attribute.write, String.append_assoc]
  exact referencesOf_append h _

theorem referencesOf_path (h : startsQuiet name = true) (p : FieldPath) :
    referencesOf (Attribute.path name p).write = [] := by
  simp only [Attribute.write, String.append_assoc]
  exact referencesOf_append h _

end

@[simp] theorem referencesOf_register (p : FieldPath) :
    referencesOf (Attribute.register p).write = [] := by
  have hwrite : (Attribute.register p).write = "\x7b...register(" ++ (p.inCall ++ ")\x7d") := by
    have hopen : "\x7b...register(" = "\x7b" ++ "...register(" := rfl
    have hclose : ")\x7d" = ")" ++ "\x7d" := rfl
    rw [Attribute.write, braced, hopen, hclose]
    simp only [String.append_assoc]
  rw [hwrite]
  exact referencesOf_append (by decide) _

/-- A handler refers to the function that it calls. -/
theorem referencesOf_onClick (code : String) :
    referencesOf (Attribute.code "onClick" code).write =
      (((tokens? code).bind thunk?).bind callee?).toList := by
  have hcollection : collection? (Attribute.code "onClick" code).write = none := by
    refine collection?_of_head? ?_
    simp only [Attribute.write, String.append_assoc, String.toList_append]
    exact fun h => absurd (Option.some.inj h) (by decide)
  rw [referencesOf, hcollection, clicked?, handler?_onClick]
  rfl

/-! ## Pieces of markup -/

theorem referencesOf_tag (rest : String) : referencesOf ("<" ++ rest) = [] :=
  referencesOf_append (by decide) rest

@[simp] theorem referencesOf_closing (tag : String) : referencesOf (closing tag) = [] := by
  rw [closing, String.append_assoc]
  exact referencesOf_append (by decide) _

namespace Markup

section
variable (depth : Nat)

@[simp] theorem references_allLines_nil : references (allLines depth []) = [] := rfl

@[simp] theorem references_allLines_cons (m : Markup) (rest : List Markup) :
    references (allLines depth (m :: rest)) =
      references (m.lines depth) ++ references (allLines depth rest) := by
  rw [allLines, references_append]

@[simp] theorem references_allLines_append (ms ms' : List Markup) :
    references (allLines depth (ms ++ ms')) =
      references (allLines depth ms) ++ references (allLines depth ms') := by
  simp only [allLines_eq_flatMap, List.flatMap_append, references_append]

@[simp] theorem references_blank : references (Markup.blank.lines depth) = [] := rfl

@[simp] theorem references_text (line : String) :
    references ((Markup.text line).lines depth) = referencesOf line := by
  simp [lines]

@[simp] theorem references_attr (a : Attribute) :
    references ((Markup.attr a).lines depth) = referencesOf a.write := by
  simp [lines]

@[simp] theorem references_unsupported (type path : String) :
    references ((Markup.unsupported type path).lines depth) = [] := by
  have htext : referencesOf (unsupportedElement type path) = [] := by
    rw [unsupportedElement, String.append_assoc]
    exact referencesOf_append (by decide) _
  simp [lines, htext]

@[simp] theorem references_block (steps : Nat) (head tail : String) (inner : List Markup) :
    references ((Markup.block steps head inner tail).lines depth) =
      referencesOf head ++ references (allLines (depth + steps) inner) ++ referencesOf tail := by
  simp [lines]

@[simp] theorem references_void (tag : String) (attributes : List Markup) :
    references ((Markup.void tag attributes).lines depth) =
      references (allLines (depth + 1) attributes) := by
  have hend : referencesOf "/>" = [] := rfl
  simp [lines, referencesOf_tag, hend]

@[simp] theorem references_stacked (tag : String) (attributes content : List Markup) :
    references ((Markup.stacked tag attributes content).lines depth) =
      references (allLines (depth + 1) attributes) ++
        references (allLines (depth + 1) content) := by
  have hend : referencesOf ">" = [] := rfl
  simp [lines, referencesOf_tag, hend]

@[simp] theorem references_inline (tag : String) (attributes : List Attribute)
    (content : List Markup) :
    references ((Markup.inline tag attributes content).lines depth) =
      references (allLines (depth + 1) content) := by
  simp [lines, String.append_assoc, referencesOf_tag]

@[simp] theorem references_mark (tag : String) :
    references ((Markup.mark tag).lines depth) = [] := by
  simp [lines, String.append_assoc, referencesOf_tag]

@[simp] theorem references_label (tag s : String) :
    references ((Markup.label tag s).lines depth) = [] := by
  simp [lines, String.append_assoc, referencesOf_tag]

end

/-- Markup that refers to no handle. -/
def Quiet (m : Markup) : Prop := ∀ depth, references (m.lines depth) = []

theorem references_allLines_of_quiet {ms : List Markup} (h : ∀ m ∈ ms, m.Quiet) (depth : Nat) :
    references (allLines depth ms) = [] := by
  induction ms with
  | nil => rfl
  | cons m rest ih =>
    rw [List.forall_mem_cons] at h
    rw [references_allLines_cons, h.1 depth, ih h.2, List.append_nil]

end Markup

/-! ## Single values -/

section
variable (depth : Nat)

@[simp] theorem references_sizeAttribute (compact : Bool) :
    references (allLines depth (sizeAttribute compact)) = [] := by
  cases compact with
  | false => rfl
  | true => simp (disch := decide) [sizeAttribute, referencesOf_constant]

@[simp] theorem references_helperAttribute (spec : FieldSpec) :
    references (allLines depth (helperAttribute spec)) = [] := by
  rw [helperAttribute]
  cases spec.helperText with
  | none => rfl
  | some text => simp (disch := decide) [referencesOf_text]

@[simp] theorem references_wrapped (spec : FieldSpec) (p : FieldPath) (content : List Markup) :
    references ((wrapped spec p content).lines depth) =
      references (allLines (depth + 2) content) := by
  have hhead : referencesOf "field=\x7b" = [] := rfl
  have htail : referencesOf "\x7d" = [] := rfl
  simp (disch := decide) [wrapped, wrapperAttributes, requiredAttribute, referencesOf_text,
    referencesOf_path, referencesOf_binding, referencesOf_code, hhead, htail]

@[simp] theorem references_controlled (p : FieldPath) (element : Markup) :
    references ((controlled p element).lines depth) = references (element.lines (depth + 3)) := by
  have hhead : referencesOf "render=\x7b(\x7b field: controllerField \x7d) => (" = [] := rfl
  have htail : referencesOf ")\x7d" = [] := rfl
  simp (disch := decide) [controlled, referencesOf_path, referencesOf_binding, hhead, htail]

@[simp] theorem references_controlElement (f : Field) (control : Control) (p : FieldPath)
    (compact : Bool) : references (allLines depth (controlElement f control p compact)) = [] := by
  have hradio : ∀ d, references (allLines d (f.options.map radioItem)) = [] := by
    refine references_allLines_of_quiet ?_
    rw [List.forall_mem_map]
    intro option _ d
    simp [radioItem]
  cases control <;>
    simp (disch := decide) [controlElement, placeholderAttribute, referencesOf_constant,
      referencesOf_text, referencesOf_code, hradio]

@[simp] theorem references_optionsAttribute (options : List String) :
    references ((optionsAttribute options).lines depth) = [] := by
  rw [optionsAttribute]
  split
  · rw [references_attr]
    exact referencesOf_code (by decide) _
  · have hhead : referencesOf "options=\x7b[" = [] := rfl
    have htail : referencesOf "]\x7d" = [] := rfl
    rw [references_block, hhead, htail, references_allLines_of_quiet]
    · rfl
    · rw [List.forall_mem_map]
      intro option _ d
      rw [references_text, String.append_assoc, String.append_assoc, String.append_assoc]
      exact referencesOf_append (by decide) _

/-- A field with a single value refers to no handle. -/
theorem quiet_leafElement (f : Field) (kind : FieldKind) (p : FieldPath) (compact : Bool) :
    (leafElement f kind p compact).Quiet := by
  intro depth
  rw [leafElement]
  split
  · simp (disch := decide) [selectElement, requiredAttribute, placeholderAttribute,
      referencesOf_path, referencesOf_text, referencesOf_binding, referencesOf_code]
  · simp

/-! ## Lists -/

section
variable {f : Field} {handles : Handles}

theorem Handles.Nameable.fields (h : handles.Nameable) : isIdentifier handles.fields = true :=
  h _ (by simp [names])

theorem Handles.Nameable.callable (h : handles.Nameable) : handles.Callable :=
  ⟨h _ (by simp [names]), h _ (by simp [names])⟩

/-- A button refers to the function that it calls. -/
theorem references_button {function argument : String} {e : Expr}
    (hfunction : isIdentifier function = true) (hargument : WritesApart argument e)
    {text : String} (htext : referencesOf text = []) (palette : String) :
    references
        ((button ("() => " ++ function ++ "(" ++ argument ++ ")") palette text).lines depth) =
      [function] := by
  have hcall := thunk?_call hfunction hargument
  simp (disch := decide) [button, referencesOf_onClick, hcall, callee?, referencesOf_constant,
    htext]

theorem references_removeButton (h : handles.Nameable) :
    references ((removeButton handles).lines depth) = [handles.remove] := by
  have hindex : WritesApart "index" (.name "index") :=
    ⟨_, readsApart_word (by decide), spells_name "index"⟩
  have hcode : "() => " ++ handles.remove ++ "(index)" =
      "() => " ++ handles.remove ++ "(" ++ "index" ++ ")" := by
    simp only [String.append_assoc]
    rfl
  rw [removeButton, hcode]
  exact references_button depth h.callable.remove hindex rfl "red"

/-- The line above the items counts them, and its button appends one. -/
theorem references_listHeader (h : handles.Nameable) :
    references ((listHeader f handles).lines depth) = [handles.fields, handles.append] := by
  obtain ⟨e, hliteral, -⟩ := exists_writesApart_literal f.itemTemplate (numberless_itemTemplate f)
  have hcount : referencesOf (braced (handles.fields ++ ".length") ++ " item" ++
      braced (handles.fields ++ ".length !== 1 ? 's' : ''")) = [handles.fields] := by
    have hinside : braced (handles.fields ++ ".length") ++ " item" ++
        braced (handles.fields ++ ".length !== 1 ? 's' : ''") =
          "\x7b" ++ handles.fields ++ (".length" ++ ("\x7d" ++ (" item" ++
            braced (handles.fields ++ ".length !== 1 ? 's' : ''")))) := by
      simp only [braced, String.append_assoc]
    rw [hinside]
    exact referencesOf_collection h.fields (by rw [String.toList_append]; rfl)
  have hadd : referencesOf ("Add " ++ childText f.label ++ " Item") = [] := by
    rw [String.append_assoc]
    exact referencesOf_append (by decide) _
  have hbutton := references_button (depth + 1) h.callable.append hliteral hadd "green"
  simp [listHeader, hcount, hbutton]

theorem references_primitiveItem (h : handles.Nameable) (p : FieldPath) :
    references ((primitiveItem f p handles).lines depth) = [handles.remove] := by
  simp [primitiveItem, references_removeButton _ h]

/-- The title of an item is no code. -/
@[simp] theorem referencesOf_itemTitle (s code : String) :
    referencesOf (childText s ++ " #" ++ braced code) = [] := by
  have hchars : (childText s ++ " #" ++ braced code).toList =
      (childText s).toList ++ ' ' :: '#' :: (braced code).toList := by
    rw [String.toList_append, String.toList_append, List.append_assoc]
    rfl
  refine referencesOf_eq_nil ?_ ?_
  · rcases childText_cases s with ⟨hs, hbrace, -⟩ | hs
    · refine collection?_of_head? ?_
      rw [hchars, hs, List.head?_append]
      intro hhead
      cases hname : s.toList.head? with
      | none =>
        rw [hname] at hhead
        exact absurd (Option.some.inj hhead) (by decide)
      | some c =>
        rw [hname] at hhead
        exact hbrace (List.mem_of_mem_head? (hname.trans hhead))
    · -- a quote follows the brace
      have hquoted : (childText s ++ " #" ++ braced code).toList =
          '\x7b' :: '\x27' :: ((escapeString s ++ "'" ++ "\x7d").toList ++
            ' ' :: '#' :: (braced code).toList) := by
        rw [hchars, hs, braced, quote]
        simp only [String.toList_append, List.append_assoc]
        rfl
      exact collection?_of_second hquoted (by decide)
  · rw [hchars]
    exact fun h => not_prefix_childText s (prefix_of_prefix_append (by decide) h)

theorem references_objectItem (h : handles.Nameable) {fields : List Markup}
    (hfields : ∀ m ∈ fields, m.Quiet) :
    references ((objectItem f handles fields).lines depth) = [handles.remove] := by
  simp (disch := decide) [objectItem, referencesOf_code, referencesOf_constant,
    references_removeButton _ h, references_allLines_of_quiet hfields]

@[simp] theorem references_emptyNote (f : Field) : references ((emptyNote f).lines depth) = [] := by
  have hnote : referencesOf ("No items added yet. Click \"Add " ++ childText f.label ++
      " Item\" to create the first item.") = [] := by
    rw [String.append_assoc]
    exact referencesOf_append (by decide) _
  simp [emptyNote, hnote]

/-- What the element of a list refers to, line by line: it counts the items, appends one, goes
through them, removes one, and asks whether there are any. -/
def Handles.used (h : Handles) : List String := [h.fields, h.append, h.fields, h.remove, h.fields]

/-- A list refers to its handles, if nothing inside its items does. -/
theorem references_listElement (h : handles.Nameable) (p : FieldPath) {fields : List Markup}
    (hfields : ∀ m ∈ fields, m.Quiet) :
    references ((listElement f p handles fields).lines depth) = handles.used := by
  have hmap : referencesOf ("\x7b" ++ handles.fields ++ ".map((item, index) => (") =
      [handles.fields] := referencesOf_collection h.fields rfl
  have hlength : referencesOf ("\x7b" ++ handles.fields ++ ".length === 0 && (") =
      [handles.fields] := referencesOf_collection h.fields rfl
  have htail : referencesOf "))\x7d" = [] := rfl
  have htail' : referencesOf ")\x7d" = [] := rfl
  by_cases hnone : f.children.isEmpty = true <;>
    simp [listElement, references_listHeader _ h, hmap, hlength, htail, htail', hnone,
      references_primitiveItem _ h, references_objectItem _ h hfields, Handles.used]

end

end

/-! ## Rendering -/

/-- The runs by which fields that stand together are rendered. -/
theorem forall₂_run_of_mapM {render : Field → Render Markup} {fs : List Field}
    {parts parts' : Parts} {ms : List Markup} (h : (fs.mapM render).run parts = (ms, parts')) :
    List.Forall₂ (fun f m => ∃ before after, (render f).run before = (m, after)) fs ms := by
  induction fs generalizing parts ms with
  | nil =>
    obtain ⟨rfl, -⟩ := run_pure_eq_iff.mp h
    exact .nil
  | cons f rest ih =>
    obtain ⟨m, mid, tail, hm, htail, rfl⟩ := run_mapM_cons_eq_iff.mp h
    exact .cons ⟨parts, mid, hm⟩ (ih htail)

/-- A field of an item refers to no handle of the list around it. -/
theorem quiet_of_itemRun {component parent : String} {within : FieldPath} {f : Field}
    {parts parts' : Parts} {m : Markup} (h : ItemRun component within parent f parts m parts') :
    m.Quiet := by
  cases h with
  | note htype =>
    intro depth
    exact references_unsupported depth _ _
  | value htype hkind => exact quiet_leafElement f _ _ true
  | list hkind hfree hfields =>
    intro depth
    simp (disch := decide) [referencesOf_binding, referencesOf_path]

theorem quiet_of_run_mapM {component parent : String} {within : FieldPath} {fs : List Field}
    {parts parts' : Parts} {ms : List Markup}
    (h : (fs.mapM (itemField component within parent)).run parts = (ms, parts')) :
    ∀ m ∈ ms, m.Quiet :=
  forall_mem_of_forall₂ (forall₂_run_of_mapM h) fun _ _ ⟨_, _, hrun⟩ =>
    quiet_of_itemRun (itemRun_of_run hrun)

/-- If a field is a list, a block is its element and refers to the handles that the only hook with
the name of the field binds. -/
def ShownWithOwnHook (hooks : List (String × Handles)) (f : Field) (block : Markup) : Prop :=
  f.kind? = some .array →
    ∃ handles fields, (∀ h, (f.name, h) ∈ hooks ↔ h = handles) ∧
      block = listElement f (.literal f.name) handles fields ∧
      ∀ depth, references (block.lines depth) = handles.used

/-- Where names are distinct, there is one hook for each list. -/
theorem exists_handles_of_nodup {fields : List Field} (hnames : (fields.map Field.name).Nodup)
    {f : Field} (hf : f ∈ fields) (harray : f.kind? = some .array) :
    ∃ handles, (arrayHandles fields).lookup f.name = some handles ∧
      ∀ h, (f.name, h) ∈ arrayHandles fields ↔ h = handles := by
  have hkeys : ((arrayHandles fields).map Prod.fst).Nodup := by
    rw [arrayHandles, Handles.map_fst_ofFields]
    exact hnames.sublist (List.filter_sublist.map _)
  have hkey : f.name ∈ (arrayHandles fields).map Prod.fst := by
    rw [arrayHandles, Handles.map_fst_ofFields]
    exact List.mem_map_of_mem (List.mem_filter.mpr ⟨hf, decide_eq_true harray⟩)
  obtain ⟨⟨name, handles⟩, hmem, rfl⟩ := List.mem_map.mp hkey
  have hlookup := lookup_of_mem hkeys hmem
  refine ⟨handles, hlookup, fun h => ⟨fun hother => ?_, fun hsame => hsame ▸ hmem⟩⟩
  exact Option.some.inj ((lookup_of_mem hkeys hother).symm.trans hlookup)

section
variable {ids : Identifiers} {form : Form}

/-- Where names are distinct, every list at the top is shown with the handles of its hook. -/
theorem shownWithOwnHook_shownFields (hnames : (form.fields.map Field.name).Nodup) :
    List.Forall₂ (ShownWithOwnHook (arrayHandles form.fields)) form.fields
      (shownFields ids form) := by
  obtain ⟨ms, parts, hrun, hrendered⟩ := exists_run_ofFields ids form.fields
  rw [shownFields, hrendered, List.forall₂_iff_zip]
  obtain ⟨hlength, hruns⟩ := List.forall₂_iff_zip.mp (forall₂_run_of_mapM hrun)
  refine ⟨hlength, fun {f m} hmem harray => ?_⟩
  obtain ⟨before, after, hm⟩ := hruns hmem
  obtain ⟨handles, hlookup, honly⟩ :=
    exists_handles_of_nodup hnames (List.of_mem_zip hmem).1 harray
  have hnameable := nameable_of_mem_arrayHandles (f.name, handles) ((honly handles).mpr rfl)
  cases topRun_of_run hm with
  | note htype => exact absurd harray (Field.kind?_ne_array_of_unrecognized htype)
  | value htype hkind => exact absurd harray (Field.kind?_ne_array_of_known htype hkind)
  | list _ hfields =>
    rw [hlookup, Option.getD_some]
    exact ⟨handles, _, honly, rfl, fun depth =>
      references_listElement depth hnameable _ (quiet_of_run_mapM hfields)⟩

theorem infix_lines_inline (tag : String) (attributes : List Attribute) (content : List Markup)
    (depth : Nat) :
    allLines (depth + 1) content <:+: (inline tag attributes content).lines depth := by
  rw [lines, List.cons_append, ← List.singleton_append, ← List.append_assoc]
  exact List.infix_append _ _ _

/-- The fields are shown four steps deep in the component, one after the other. -/
theorem infix_mainBodyOf :
    allLines 4 (spaced (shownFields ids form)) <:+: mainBodyOf ids form := by
  have hpage : allLines 4 (spaced (shownFields ids form)) <:+:
      (pageMarkup form.title (shownFields ids form)).lines 2 := by
    refine List.IsInfix.trans ?_ (infix_lines_inline _ _ _ 2)
    rw [allLines, allLines, List.append_nil]
    refine List.IsInfix.trans ?_ (infix_lines_inline _ _ _ 3)
    simp only [allLines_eq_flatMap, List.flatMap_append]
    exact List.infix_append _ _ _
  refine hpage.trans ?_
  rw [mainBodyOf, mainBody]
  refine List.IsInfix.trans ?_ (List.suffix_append _ _).isInfix
  refine List.IsInfix.trans ?_ (List.suffix_append _ _).isInfix
  rw [List.cons_append, ← List.singleton_append, ← List.append_assoc]
  exact List.infix_append _ _ _

end

/-- **Handles are safe names.** The lists among any fields bind handles, in the order of the
fields. All their names are identifiers, none is reserved, no two are the same, and none is one that
the component has for itself. In the file of a form with these fields, whatever its title, none of
them is imported; the component binds them between what it takes from the form and its own function,
and each hook binds the handles of its list. Where the fields have distinct names, each list is
shown by an element that refers to the handles of the one hook that has its name. -/
theorem arrayHandles_are_safe_names (fields : List Field) :
    (arrayHandles fields).map Prod.fst = (Field.lists fields).map Field.name ∧
      (∀ name ∈ handleNames fields, isIdentifier name = true ∧ name ∉ reservedWords) ∧
      (handleNames fields).Nodup ∧
      (∀ name ∈ handleNames fields, name ∉ ownNames) ∧
      ∀ (title : String) (ids : Identifiers), Identifiers.ofTitle title = .ok ids →
        (∀ name ∈ handleNames fields, name ∉ importedNames (fileLines ids ⟨title, fields⟩)) ∧
        ∃ inner main,
          definitions (fileLines ids ⟨title, fields⟩) = inner ++ [(ids.componentName, main)] ∧
          bindings main =
            formBindings (Usage.ofFields false fields) ++ handleNames fields ++ ["onSubmit"] ∧
          boundHooks main = arrayHandles fields ∧
          ((fields.map Field.name).Nodup →
            ∃ blocks, allLines 4 (spaced blocks) <:+: main ∧
              List.Forall₂ (ShownWithOwnHook (boundHooks main)) fields blocks) := by
  refine ⟨Handles.map_fst_ofFields [] fields,
    fun name h => ⟨isIdentifier_of_mem_handleNames h, not_mem_reservedWords h⟩,
    nodup_handleNames fields, fun name h => not_mem_ownNames h, ?_⟩
  intro title ids hids
  have hword : IsWord ids.componentName.toList := Identifiers.isWord_of_ofTitle hids
  obtain ⟨-, htype⟩ := Identifiers.isIdentifier_of_ofTitle hids
  have hhooks := @boundHooks_mainBodyOf ids ⟨title, fields⟩ hword
  refine ⟨fun name h => not_mem_importedNames hids _ h, _, mainBodyOf ids ⟨title, fields⟩,
    (outlines_fileLines hword).definitions_eq, bindings_mainBodyOf htype, hhooks, ?_⟩
  intro hnames
  refine ⟨shownFields ids ⟨title, fields⟩, infix_mainBodyOf, ?_⟩
  rw [hhooks]
  exact shownWithOwnHook_shownFields hnames

/-- Lists whose names ask for the same handles, or for none. -/
def albumFields : List Field :=
  ["my tags", "my-tags", "myTags2", "myTags", "42"].map Form.textList

/-- The handles that the file of a form with these lists binds and refers to. -/
theorem albumFields_handles :
    ∃ inner main,
      definitions (fileLines ⟨"Album", "album"⟩ ⟨"Album", albumFields⟩) =
        inner ++ [("Album", main)] ∧
      boundHooks main =
        [("my tags", .ofBase "myTags"), ("my-tags", .ofBase "myTags2"),
          ("myTags2", .ofBase "myTags22"), ("myTags", .ofBase "myTags3"),
          ("42", .ofBase "items")] ∧
      ∃ blocks, allLines 4 (spaced blocks) <:+: main ∧
        List.Forall₂ (ShownWithOwnHook (boundHooks main)) albumFields blocks := by
  have hids : Identifiers.ofTitle "Album" = .ok ⟨"Album", "album"⟩ := rfl
  have hhandles : arrayHandles albumFields =
      [("my tags", .ofBase "myTags"), ("my-tags", .ofBase "myTags2"),
        ("myTags2", .ofBase "myTags22"), ("myTags", .ofBase "myTags3"),
        ("42", .ofBase "items")] := by decide +kernel
  obtain ⟨-, -, -, -, hfile⟩ := arrayHandles_are_safe_names albumFields
  obtain ⟨-, inner, main, hdefinitions, -, hhooks, hshown⟩ := hfile "Album" _ hids
  exact ⟨inner, main, hdefinitions, hhooks.trans hhandles, hshown (by decide)⟩

end WebForm.Component
