import WebForm.Proofs.Component.Contents
import WebForm.Proofs.Component.Names
/-!
# Lists inside lists

Every list inside the items of a list has an inner component of its own. The components are
finished in the order of `innerLists`: a list comes after the lists in its items, because its
component is complete when they are. One statement about the fields of an item follows a run: which
components are finished, what the markup shows, and that every component that is finished is shown
exactly once, in the markup or in another component.
-/

set_option autoImplicit false

namespace WebForm

namespace Field

/-! ## Lists that are reached -/

mutual

/-- A field and the lists inside its items, each behind the lists inside its own items: none if the
field is no list. -/
def innerLists : Field → List Field
  | ⟨spec, children⟩ =>
    if spec.type.kind? = some .array then innerListsIn children ++ [⟨spec, children⟩] else []
termination_by structural f => f

/-- The lists among some fields and inside their items. -/
def innerListsIn : List Field → List Field
  | [] => []
  | f :: rest => innerLists f ++ innerListsIn rest
termination_by structural fs => fs

end

/-- The lists inside the items of a field: none unless it is a list. -/
def innerListsBelow (f : Field) : List Field :=
  if f.kind? = some .array then innerListsIn f.children else []

theorem kind?_ne_array_of_unrecognized {f : Field} {raw : String}
    (h : f.spec.type = .unrecognized raw) : f.kind? ≠ some .array := by
  rw [kind?, h]
  exact fun hsame => by cases hsame

theorem kind?_ne_array_of_known {f : Field} {kind : FieldKind} (h : f.spec.type = .known kind)
    (hkind : kind ≠ .array) : f.kind? ≠ some .array := by
  rw [kind?, h]
  exact fun hsame => hkind (Option.some.inj hsame)

theorem innerListsIn_eq_flatMap (fs : List Field) : innerListsIn fs = fs.flatMap innerLists := by
  induction fs with
  | nil => rfl
  | cons f rest ih => rw [innerListsIn, ih, List.flatMap_cons]

theorem innerLists_of_array {f : Field} (h : f.kind? = some .array) :
    innerLists f = innerListsIn f.children ++ [f] := by
  obtain ⟨spec, children⟩ := f
  exact if_pos h

theorem innerLists_of_ne_array {f : Field} (h : f.kind? ≠ some .array) : innerLists f = [] := by
  obtain ⟨spec, children⟩ := f
  exact if_neg h

/-- The lists among some fields, and those inside their items. -/
theorem perm_innerListsIn (fs : List Field) :
    (innerListsIn fs).Perm (lists fs ++ fs.flatMap innerListsBelow) := by
  induction fs with
  | nil => exact .refl _
  | cons f rest ih =>
    rw [innerListsIn, lists_cons, List.flatMap_cons, innerListsBelow]
    by_cases harray : f.kind? = some .array
    · rw [innerLists_of_array harray, if_pos harray, if_pos harray, List.append_assoc,
        List.singleton_append, List.cons_append]
      refine List.perm_middle.trans (.cons f ?_)
      exact (ih.append_left _).trans (List.perm_append_comm_assoc _ _ _)
    · rw [innerLists_of_ne_array harray, if_neg harray, if_neg harray]
      exact ih

/-- The lists at the places of a forest. -/
def listsAt (ps : List Place) : List Field := lists (ps.map Place.field)

theorem listsAt_append (ps qs : List Place) : listsAt (ps ++ qs) = listsAt ps ++ listsAt qs := by
  rw [listsAt, List.map_append, lists, List.filter_append]
  rfl

theorem perm_listsAt_places {fs : List Field}
    (h : ∀ f ∈ fs, ∀ parent elders juniors,
      (listsAt (placesIn parent elders juniors f)).Perm (innerLists f))
    (parent : String) (elders : List Field) :
    (listsAt (places parent elders fs)).Perm (innerListsIn fs) := by
  induction fs generalizing elders with
  | nil => exact .refl _
  | cons f rest ih =>
    rw [List.forall_mem_cons] at h
    rw [places, innerListsIn, listsAt_append]
    exact (h.1 parent elders rest).append (ih h.2 _)

/-- A list that is reached in a field is the field itself or inside its items. -/
theorem perm_listsAt_placesIn (f : Field) : ∀ parent elders juniors,
    (listsAt (placesIn parent elders juniors f)).Perm (innerLists f) := by
  induction f using Field.induction with
  | mk spec children ih =>
    intro parent elders juniors
    rw [placesIn_eq, placesBelow]
    by_cases harray : (Field.mk spec children).kind? = some .array
    · rw [if_pos harray, innerLists_of_array harray]
      have hself : listsAt [⟨parent, elders, ⟨spec, children⟩, juniors⟩] =
          [⟨spec, children⟩] := by
        rw [listsAt, List.map_singleton, lists_cons, if_pos harray]
        rfl
      rw [← List.singleton_append, listsAt_append, hself]
      exact List.perm_append_comm.trans ((perm_listsAt_places ih _ _).append_right _)
    · rw [if_neg harray, innerLists_of_ne_array harray, listsAt, List.map_singleton, lists_cons,
        if_neg harray]
      exact .refl _

end Field

namespace Form

/-- The lists inside the items of lists, in the order in which their components are finished. -/
def innerLists (form : Form) : List Field := form.fields.flatMap Field.innerListsBelow

/-- **A list that is reached in a form is at the top or inside the items of a list.** -/
theorem perm_lists_places (form : Form) :
    (Field.lists form.fields ++ form.innerLists).Perm
      (Field.lists (form.places.map Field.Place.field)) :=
  ((Field.perm_listsAt_places (fun f _ => Field.perm_listsAt_placesIn f) "" []).trans
    (Field.perm_innerListsIn form.fields)).symm

end Form

namespace Component

open WebForm.Field Identifier Source Markup

/-! ## Names of inner components -/

/-- A name that an inner component of some component can have. -/
def IsInnerNameOf (component name : String) : Prop :=
  ∃ inside digits : String, (∀ c ∈ inside.toList, c.isAlphanum = true) ∧
    (∀ c ∈ digits.toList, c.isDigit = true) ∧
      name = component ++ inside ++ "FieldArray" ++ digits

theorem isAlphanum_of_isWord {cs : List Char} (h : IsWord cs) : ∀ c ∈ cs, c.isAlphanum = true := by
  obtain ⟨c, rest, rfl, hc, hrest⟩ := h
  rw [List.forall_mem_cons, Char.isAlphanum, hc, Bool.true_or]
  exact ⟨rfl, hrest⟩

theorem isAlphanum_segmentName (segment : String) :
    ∀ c ∈ (segmentName segment).toList, c.isAlphanum = true := by
  rw [segmentName]
  split
  · next name hname => exact isAlphanum_of_isWord (isWord_typeName hname)
  · exact List.all_eq_true.mp (by decide)

/-- The names that are given out to inner components. -/
theorem isInnerNameOf_freeName (taken : List String) (component display : String) :
    IsInnerNameOf component (freeName taken (subComponentBase component display)) := by
  obtain ⟨digits, hdigits, hname⟩ :=
    exists_digits_freeName taken (subComponentBase component display)
  refine ⟨String.join ((display.splitOn ".").map segmentName), digits, ?_, hdigits, hname⟩
  intro c hc
  rw [String.toList_join] at hc
  obtain ⟨segment, hsegment, hc⟩ := List.mem_flatMap.mp hc
  obtain ⟨text, -, rfl⟩ := List.mem_map.mp hsegment
  exact isAlphanum_segmentName text c hc

namespace IsInnerNameOf

variable {component name : String}

/-- Such a name is told from the names of other elements. -/
theorem isInnerName (h : IsInnerNameOf component name) : isInnerName name = true := by
  obtain ⟨inside, digits, -, hdigits, rfl⟩ := h
  have hchars : (component ++ inside ++ "FieldArray" ++ digits).toList.reverse =
      digits.toList.reverse ++ ("FieldArray".toList.reverse ++
        (component ++ inside).toList.reverse) := by
    rw [String.toList_append, String.toList_append, List.reverse_append, List.reverse_append]
  have hnumber : ∀ c ∈ digits.toList.reverse, c.isDigit = true :=
    fun c hc => hdigits c (List.mem_reverse.mp hc)
  rw [Component.isInnerName, hchars, List.dropWhile_append_of_pos hnumber]
  -- the letter at the end of `FieldArray` is no digit
  have hletters : ("FieldArray".toList.reverse ++ (component ++ inside).toList.reverse).dropWhile
      Char.isDigit = "FieldArray".toList.reverse ++ (component ++ inside).toList.reverse := rfl
  rw [hletters]
  exact List.isPrefixOf_iff_prefix.mpr (List.prefix_append _ _)

theorem isIdentifier (hcomponent : IsWord component.toList) (h : IsInnerNameOf component name) :
    Source.isIdentifier name = true := by
  obtain ⟨inside, digits, hinside, hdigits, rfl⟩ := h
  have hparts : inside.toList.all isIdentifierPart = true :=
    List.all_eq_true.mpr fun c hc => isIdentifierPart_of_isAlphanum (hinside c hc)
  have hbefore := isIdentifier_append (isIdentifier_of_isWord hcomponent) hparts
  exact isIdentifier_append (isIdentifier_append hbefore (by decide))
    (all_isIdentifierPart_of_isDigit hdigits)

/-- Such a name is longer than that of the component itself. -/
theorem length_lt (h : IsInnerNameOf component name) : component.length < name.length := by
  obtain ⟨inside, digits, -, -, rfl⟩ := h
  simp only [String.length_append]
  have hletters : "FieldArray".length = 10 := rfl
  omega

/-- Such a name is not that of the properties of a component. -/
theorem ne_append_props (h : IsInnerNameOf component name) (other : String) :
    name ≠ subComponentProps other := by
  intro hsame
  have hinner := h.isInnerName
  have hchars : (other ++ "Props").toList.reverse =
      "Props".toList.reverse ++ other.toList.reverse := by
    rw [String.toList_append, List.reverse_append]
  rw [hsame, subComponentProps, Component.isInnerName, hchars] at hinner
  cases hinner

end IsInnerNameOf

/-! ## What a run leaves -/

/-- The inner components that some markup shows. -/
def shownIn (m : Markup) : List String := m.signs.filterMap Sign.inner?

/-- The inner components that pieces of markup show. -/
def allShownIn (ms : List Markup) : List String := (allSigns ms).filterMap Sign.inner?

/-- An inner component renders a list: under the path that it is handed, with one button that adds
an item, and without calling any hook in its markup. -/
structure RendersList (component : String) (list : Field) (c : SubComponent) : Prop where
  name : IsInnerNameOf component c.name
  body : ∃ fields, c.body = listElement list (.variable "path") .own fields
  calls : c.body.signs.filterMap Sign.call? = [("append", list.itemTemplate)]
  hook : .hook ∉ c.body.signs

/-- What a run has rendered: the calls with a literal and no hooks in the markup, and an inner
component for each of some lists. Every component is shown exactly once. -/
structure Rendering (component : String) (lists : List Field) (calls : List (String × Json))
    (ms : List Markup) (before after : Parts) : Prop where
  hook : .hook ∉ allSigns ms
  calls : (allSigns ms).filterMap Sign.call? = calls
  finished : ∃ new, after.finished = before.finished ++ new ∧
    List.Forall₂ (RendersList component) lists new ∧
      (allShownIn ms ++ new.flatMap fun c => shownIn c.body).Perm (new.map SubComponent.name)

namespace Rendering

variable {component : String}

/-- Markup that shows nothing. -/
theorem of_signs_eq_nil {m : Markup} (h : m.signs = []) (parts : Parts) :
    Rendering component [] [] [m] parts parts := by
  have hall : allSigns [m] = [] := by rw [allSigns_cons, h, allSigns_nil, List.nil_append]
  refine ⟨?_, ?_, [], (List.append_nil _).symm, .nil, ?_⟩
  · rw [hall]
    exact List.not_mem_nil
  · rw [hall]
    rfl
  · rw [allShownIn, hall]
    exact .refl _

theorem nil (parts : Parts) : Rendering component [] [] [] parts parts :=
  ⟨List.not_mem_nil, rfl, [], (List.append_nil _).symm, .nil, .refl _⟩

/-- What is rendered one after the other. -/
theorem append {lists lists' : List Field} {calls calls' : List (String × Json)}
    {ms ms' : List Markup} {a b c : Parts} (h : Rendering component lists calls ms a b)
    (h' : Rendering component lists' calls' ms' b c) :
    Rendering component (lists ++ lists') (calls ++ calls') (ms ++ ms') a c := by
  obtain ⟨new, hnew, hlists, hshown⟩ := h.finished
  obtain ⟨new', hnew', hlists', hshown'⟩ := h'.finished
  refine ⟨?_, ?_, new ++ new', ?_, List.rel_append hlists hlists', ?_⟩
  · rw [allSigns_append, List.mem_append, not_or]
    exact ⟨h.hook, h'.hook⟩
  · rw [allSigns_append, List.filterMap_append, h.calls, h'.calls]
  · rw [hnew', hnew, List.append_assoc]
  · rw [allShownIn, allSigns_append, List.filterMap_append, List.flatMap_append,
      List.map_append, ← allShownIn, ← allShownIn]
    refine List.Perm.trans ?_ (hshown.append hshown')
    -- what is shown in the markup comes before what is shown in the components
    rw [List.append_assoc, List.append_assoc]
    exact (List.perm_append_comm_assoc _ _ _).append_left _

/-- What pieces of markup show inside a list, they show once more around it. -/
theorem of_fields {lists : List Field} {calls : List (String × Json)} {fields : List Markup}
    {a b : Parts} {m : Markup} {own : List Sign} (h : Rendering component lists [] fields a b)
    (hsigns : m.signs = own ++ allSigns fields) (hhook : .hook ∉ own)
    (hinner : own.filterMap Sign.inner? = []) (hcalls : own.filterMap Sign.call? = calls) :
    Rendering component lists calls [m] a b := by
  have hall : allSigns [m] = own ++ allSigns fields := by
    rw [allSigns_cons, hsigns, allSigns_nil, List.append_nil]
  refine ⟨?_, ?_, ?_⟩
  · rw [hall, List.mem_append, not_or]
    exact ⟨hhook, h.hook⟩
  · rw [hall, List.filterMap_append, hcalls, h.calls, List.append_nil]
  · rw [allShownIn, hall, List.filterMap_append, hinner, List.nil_append]
    exact h.finished

end Rendering

/-! ## Rendering -/

section
variable {component : String} {parts parts' : Parts}

/-- Fields that stand together render what each of them does. -/
theorem rendering_mapM {render : Field → Render Markup} {lists : Field → List Field}
    {calls : Field → List (String × Json)} {fs : List Field}
    (h : ∀ f ∈ fs, ∀ parts m parts', (render f).run parts = (m, parts') →
      Rendering component (lists f) (calls f) [m] parts parts')
    {ms : List Markup} (hrun : (fs.mapM render).run parts = (ms, parts')) :
    Rendering component (fs.flatMap lists) (fs.flatMap calls) ms parts parts' := by
  induction fs generalizing parts ms with
  | nil =>
    obtain ⟨rfl, rfl⟩ := run_pure_eq_iff.mp hrun
    exact .nil parts
  | cons f rest ih =>
    obtain ⟨m, mid, tail, hm, htail, rfl⟩ := run_mapM_cons_eq_iff.mp hrun
    rw [List.forall_mem_cons] at h
    exact (h.1 _ _ _ hm).append (ih h.2 htail)

/-- What a list shows around its fields. There are no fields where it has no children. -/
theorem signs_listElement_of_run {render : Field → Render Markup} {f : Field}
    {handles : Handles} (h : handles.Callable) (p : FieldPath) {fields : List Markup}
    (hrun : (f.children.mapM render).run parts = (fields, parts')) :
    (listElement f p handles fields).signs =
      [.call handles.append f.itemTemplate] ++ allSigns fields := by
  rw [signs_listElement h]
  by_cases hnone : f.children.isEmpty = true
  · rw [if_pos hnone]
    rw [List.isEmpty_iff.mp hnone] at hrun
    obtain ⟨rfl, -⟩ := run_pure_eq_iff.mp hrun
    rfl
  · rw [if_neg hnone]
    rfl

/-- A list inside an item shows the name of its component. -/
theorem exists_name_of_run {f : Field} (harray : f.kind? = some .array) {within : FieldPath}
    {parent : String} {m : Markup}
    (h : (itemField component within parent f).run parts = (m, parts')) :
    ∃ name attributes, m = .void name attributes ∧ IsInnerNameOf component name := by
  obtain ⟨spec, children⟩ := f
  rw [itemField, Field.kind?_eq_some_iff.mp harray] at h
  obtain ⟨name, named, hname, h⟩ := run_bind_eq_iff.mp h
  obtain ⟨fields, inside, -, h⟩ := run_bind_eq_iff.mp h
  obtain ⟨u, done, -, h⟩ := run_bind_eq_iff.mp h
  obtain ⟨rfl, -⟩ := run_pure_eq_iff.mp h
  obtain ⟨rfl, -⟩ := Prod.mk.inj hname
  exact ⟨_, _, rfl, isInnerNameOf_freeName _ _ _⟩

/-- A component that is finished when the fields inside it are rendered is shown where the list
stands, and shows what is inside it. -/
theorem rendering_inner {f : Field} {name : String} {within : FieldPath} {fields : List Markup}
    {inside : Parts} {lists : List Field} {render : Field → Render Markup}
    (hcomponent : IsWord component.toList) (hname : IsInnerNameOf component name)
    (hrun : (f.children.mapM render).run ⟨name :: parts.taken, parts.finished⟩ = (fields, inside))
    (h : Rendering component lists [] fields ⟨name :: parts.taken, parts.finished⟩ inside) :
    Rendering component (lists ++ [f]) []
      [.void name
        [.attr (.binding "control"), .attr (.binding "register"), .attr (.binding "formState"),
          .attr (.path "path" within)]]
      parts
      ⟨inside.taken,
        inside.finished ++ [⟨name, listElement f (.variable "path") .own fields⟩]⟩ := by
  have htag : isTagName name = true := isTagName_of_isIdentifier (hname.isIdentifier hcomponent)
  have hsigns := signs_innerElement htag hname.isInnerName within
  have hbody := signs_listElement_of_run Handles.callable_own (.variable "path") hrun
  obtain ⟨new, hnew, hlists, hshown⟩ := h.finished
  have hrenders : RendersList component f ⟨name, listElement f (.variable "path") .own fields⟩ := by
    refine ⟨hname, ⟨fields, rfl⟩, ?_, ?_⟩
    · rw [hbody, List.filterMap_append, h.calls]
      rfl
    · rw [hbody, List.singleton_append, List.mem_cons, not_or]
      exact ⟨Sign.noConfusion, h.hook⟩
  have hinside : shownIn (listElement f (.variable "path") .own fields) = allShownIn fields := by
    rw [shownIn, hbody, List.filterMap_append]
    rfl
  refine ⟨?_, ?_, new ++ [⟨name, listElement f (.variable "path") .own fields⟩], ?_, ?_, ?_⟩
  · simp [hsigns]
  · simp [hsigns, Sign.call?]
  · rw [show inside.finished = parts.finished ++ new from hnew, List.append_assoc]
  · exact List.rel_append hlists (.cons hrenders .nil)
  · rw [allShownIn, allSigns_cons, hsigns, List.flatMap_append, List.map_append,
      List.flatMap_singleton, hinside]
    show ([name] ++ _).Perm _
    refine List.perm_append_comm.trans (List.Perm.append_right _ ?_)
    exact List.perm_append_comm.trans hshown

/-- A field of an item renders the lists in it in components of their own. -/
theorem rendering_itemField (hcomponent : IsWord component.toList) (f : Field) :
    ∀ within parent parts m parts',
      (itemField component within parent f).run parts = (m, parts') →
        Rendering component f.innerLists [] [m] parts parts' := by
  induction f using Field.induction with
  | mk spec children ih =>
    intro within parent parts m parts' h
    cases itemRun_of_run h with
    | note htype =>
      rw [innerLists_of_ne_array (kind?_ne_array_of_unrecognized htype)]
      exact .of_signs_eq_nil rfl parts
    | value htype hkind =>
      rw [innerLists_of_ne_array (kind?_ne_array_of_known htype hkind)]
      exact .of_signs_eq_nil (signs_leafElement _ _ _ _) parts
    | list hkind hfree hfields =>
      obtain ⟨name, attributes, hm, hname⟩ := exists_name_of_run hkind h
      obtain ⟨rfl, -⟩ := Markup.void.inj hm
      have hbelow := rendering_mapM (fun c hc => ih c hc _ _) hfields
      have hnone : children.flatMap (fun _ => ([] : List (String × Json))) = [] := by simp
      rw [innerLists_of_array hkind, innerListsIn_eq_flatMap]
      exact rendering_inner hcomponent hname hfields (hnone ▸ hbelow)

/-- A field at the top renders the lists inside its items in components of their own. If it is a
list itself, the button that adds an item is in the markup. -/
theorem rendering_topField (hcomponent : IsWord component.toList)
    {handles : List (String × Handles)} {f : Field}
    (hcallable : (Handles.ofList handles f).Callable) {m : Markup}
    (h : (topField component handles f).run parts = (m, parts')) :
    Rendering component f.innerListsBelow
      (if f.kind? = some .array then [((Handles.ofList handles f).append, f.itemTemplate)] else [])
      [m] parts parts' := by
  rw [innerListsBelow]
  cases topRun_of_run h with
  | note htype =>
    have hunknown := kind?_ne_array_of_unrecognized htype
    rw [if_neg hunknown, if_neg hunknown]
    exact .of_signs_eq_nil rfl parts
  | value htype hkind =>
    have hother := kind?_ne_array_of_known htype hkind
    rw [if_neg hother, if_neg hother]
    exact .of_signs_eq_nil (signs_leafElement _ _ _ _) parts
  | list hkind hfields =>
    have hbelow := rendering_mapM (fun c _ => rendering_itemField hcomponent c _ _) hfields
    have hnone : f.children.flatMap (fun _ => ([] : List (String × Json))) = [] := by simp
    rw [hnone, ← innerListsIn_eq_flatMap] at hbelow
    have hsigns := signs_listElement_of_run hcallable (.literal f.name) hfields
    rw [if_pos hkind, if_pos hkind]
    exact hbelow.of_fields hsigns (by simp) rfl rfl

/-- The buttons of the lists at the top, one for each. -/
theorem flatMap_lists {α : Type} (g : Field → α) (fs : List Field) :
    (fs.flatMap fun f => if f.kind? = some .array then [g f] else []) = (lists fs).map g := by
  induction fs with
  | nil => rfl
  | cons f rest ih =>
    rw [List.flatMap_cons, ih, lists_cons]
    split <;> rfl

end

section
variable (ids : Identifiers) (form : Form)

/-- The inner components of a form. -/
def innerComponents : List SubComponent := (Rendered.ofFields ids form.fields).subComponents

/-- The fields of a form as the main component shows them. -/
def shownFields : List Markup := (Rendered.ofFields ids form.fields).fields

/-- The call that adds an item to a list at the top of a form. -/
def addsItem (f : Field) : String × Json :=
  ((Handles.ofList (arrayHandles form.fields) f).append, f.itemTemplate)

end

/-- **Every list inside a list has an inner component, and the component is shown once.** The
markup of the main component calls no hook, and has a button for each list at the top. -/
theorem rendering_ofFields {ids : Identifiers} (h : IsWord ids.componentName.toList)
    (form : Form) :
    .hook ∉ allSigns (shownFields ids form) ∧
      (allSigns (shownFields ids form)).filterMap Sign.call? =
        (Field.lists form.fields).map (addsItem form) ∧
      List.Forall₂ (RendersList ids.componentName) form.innerLists (innerComponents ids form) ∧
      (allShownIn (shownFields ids form) ++
        (innerComponents ids form).flatMap fun c => shownIn c.body).Perm
          ((innerComponents ids form).map SubComponent.name) := by
  obtain ⟨ms, parts, hrun, hrendered⟩ := exists_run_ofFields ids form.fields
  have hall := rendering_mapM
    (fun f _ _ _ _ => rendering_topField h (Handles.callable_ofList form.fields f)) hrun
  obtain ⟨new, hnew, hlists, hshown⟩ := hall.finished
  have hfields : shownFields ids form = ms := by rw [shownFields, hrendered]
  have hcomponents : innerComponents ids form = new := by
    rw [innerComponents, hrendered]
    exact hnew
  rw [hfields, hcomponents]
  exact ⟨hall.hook, hall.calls.trans (flatMap_lists (addsItem form) form.fields), hlists, hshown⟩

/-- What holds of the second of two that are related holds of all in the second list. -/
theorem forall_mem_of_forall₂ {α β : Type} {R : α → β → Prop} {P : β → Prop} {as : List α}
    {bs : List β} (h : List.Forall₂ R as bs) (hP : ∀ a b, R a b → P b) : ∀ b ∈ bs, P b := by
  induction h with
  | nil =>
    intro b hb
    cases hb
  | cons hab _ ih => exact List.forall_mem_cons.mpr ⟨hP _ _ hab, ih⟩

theorem forall₂_imp_of_mem {α β : Type} {R S : α → β → Prop} {as : List α} {bs : List β}
    (h : List.Forall₂ R as bs) (himp : ∀ a, ∀ b ∈ bs, R a b → S a b) : List.Forall₂ S as bs := by
  induction h with
  | nil => exact .nil
  | cons hab _ ih =>
    refine .cons (himp _ _ List.mem_cons_self hab) (ih fun a b hb => ?_)
    exact himp a b (List.mem_cons_of_mem _ hb)

end Component

end WebForm
