import WebForm.Proofs.Component.File
/-!
# One hook for each list

A hook may not be called in a loop, so a list inside the items of a list cannot have its hook where
it stands. The file has one component for the lists at the top, and one more for every list inside
a list. Each of the inner components calls one hook and is used at one place, and no two names of
the file are the same, although the names of the properties are not put aside when the inner
components are named.
-/

set_option autoImplicit false

namespace WebForm.Component

open Source Identifier Markup

/-! ## Names -/

theorem subComponentProps_injective : Function.Injective subComponentProps :=
  fun _ _ h => (String.append_left_inj "Props").mp h

/-- The components and their properties have names of their own. -/
theorem nodup_names {ids : Identifiers} {names : List String}
    (hnodup : (ids.propsName :: ids.componentName :: names).Nodup)
    (hinner : ∀ name ∈ names, IsInnerNameOf ids.componentName name) :
    (names ++ [ids.componentName] ++ (ids.propsName :: names.map subComponentProps)).Nodup := by
  have hcomponents : (ids.componentName :: names).Nodup := (List.nodup_cons.mp hnodup).2
  have hprops : ids.propsName :: names.map subComponentProps =
      (ids.componentName :: names).map subComponentProps := rfl
  rw [hprops, List.nodup_append]
  refine ⟨(List.perm_append_singleton _ _).nodup_iff.mpr hcomponents,
    hcomponents.map subComponentProps_injective, ?_⟩
  rintro name hname _ hother rfl
  obtain ⟨other, hother, hsame⟩ := List.mem_map.mp hother
  rcases List.mem_append.mp hname with hname | hname
  · exact (hinner name hname).ne_append_props other hsame.symm
  · -- the name of the component is shorter than any name with an ending
    rw [List.mem_singleton.mp hname] at hsame
    have hlength := congrArg String.length hsame
    have hlonger : ids.componentName.length ≤ other.length := by
      rcases List.mem_cons.mp hother with rfl | hother
      · exact Nat.le_refl _
      · exact Nat.le_of_lt (hinner other hother).length_lt
    have hending : "Props".length = 5 := rfl
    rw [subComponentProps, String.length_append] at hlength
    omega

/-! ## Uses -/

theorem filterMap_inner?_signs (cs : List SubComponent) :
    (cs.flatMap fun c => Sign.hook :: c.body.signs).filterMap Sign.inner? =
      cs.flatMap fun c => shownIn c.body := by
  induction cs with
  | nil => rfl
  | cons c rest ih =>
    rw [List.flatMap_cons, List.filterMap_append, ih, List.flatMap_cons]
    rfl

/-- The inner components that the file uses are those that it defines. -/
theorem perm_elements {ids : Identifiers} {form : Form} (h : IsWord ids.componentName.toList) :
    ((elements (fileLines ids form)).filter isInnerName).Perm
      ((innerComponents ids form).map SubComponent.name) := by
  obtain ⟨-, -, -, hshown⟩ := rendering_ofFields h form
  have hhooks : ((arrayHandles form.fields).map fun _ => Sign.hook).filterMap Sign.inner? = [] := by
    rw [List.filterMap_eq_nil_iff, List.forall_mem_map]
    exact fun _ _ => rfl
  rw [filter_isInnerName_elements, (outlines_fileLines h).shown, List.filterMap_append,
    List.filterMap_append, filterMap_inner?_signs, hhooks, List.nil_append, ← allShownIn]
  exact List.perm_append_comm.trans hshown

/-! ## The file -/

/-- A component that a file has for one list: it calls one hook, it shows the list under the path
that it is handed, and it is used once. -/
structure IsComponentOf (file : List Line) (list : Field) (c : String × List Line) : Prop where
  hook : hooks c.2 = [some "name: path,"]
  shows : ∃ fields, (listElement list (.variable "path") .own fields).lines 2 <:+: c.2
  used : (elements file).count c.1 = 1

/-- The markup of an inner component is in its body. -/
theorem SubComponent.lines_body_isInfix (c : SubComponent) : c.body.lines 2 <:+: c.bodyLines := by
  rw [bodyLines, List.cons_append, ← List.singleton_append, ← List.append_assoc,
    ← List.append_assoc]
  exact List.infix_append _ _ _

theorem hooks_bodyLines {component : String} {list : Field} {c : SubComponent}
    (h : RendersList component list c) : hooks c.bodyLines = [some "name: path,"] := by
  rw [← List.append_nil c.bodyLines, c.hooks_bodyLines h.hook]
  rfl

/-- An inner component is one for the list that it renders. -/
theorem isComponentOf_of_rendersList {ids : Identifiers} {form : Form}
    (hword : IsWord ids.componentName.toList) {list : Field} {c : SubComponent}
    (hc : c ∈ innerComponents ids form) (h : RendersList ids.componentName list c) :
    IsComponentOf (fileLines ids form) list (c.name, c.bodyLines) := by
  have hnodup := nodup_rendered ids form.fields
  rw [List.nodup_cons, List.nodup_cons] at hnodup
  have hcount : ((elements (fileLines ids form)).filter isInnerName).count c.name = 1 := by
    rw [(perm_elements hword).count_eq]
    exact List.count_eq_one_of_mem hnodup.2.2 (List.mem_map_of_mem hc)
  obtain ⟨fields, hbody⟩ := h.body
  refine ⟨hooks_bodyLines h, ⟨fields, ?_⟩, ?_⟩
  · rw [← hbody]
    exact c.lines_body_isInfix
  · rw [List.count_filter h.name.isInnerName] at hcount
    exact hcount

end WebForm.Component

namespace WebForm.Form

open Component Source Identifier

/-- **The component file calls one hook for each list.** Let the title of a form give names. Every
list that is reached in the form is at the top or inside a list. The main component calls a hook
for each list at the top; the file has an inner component for each list inside a list, which calls
one hook and is used once; no other hook is called; and the names of all components and of their
properties are distinct. -/
theorem hooks_match_lists {form : Form} {ids : Identifiers}
    (hids : Identifiers.ofTitle form.title = .ok ids) :
    (Field.lists form.fields ++ form.innerLists).Perm
        (Field.lists (form.places.map Field.Place.field)) ∧
      ∃ inner main,
        definitions (fileLines ids form) = inner ++ [(ids.componentName, main)] ∧
        interfaces (fileLines ids form) =
          ids.propsName :: inner.map (fun c => subComponentProps c.1) ∧
        hooks main = (Field.lists form.fields).map (fun f => some (listLine f.name)) ∧
        List.Forall₂ (IsComponentOf (fileLines ids form)) form.innerLists inner ∧
        hooks (fileLines ids form) =
          (definitions (fileLines ids form)).flatMap (fun c => hooks c.2) ∧
        ((definitions (fileLines ids form)).map Prod.fst ++
          interfaces (fileLines ids form)).Nodup := by
  have hword : IsWord ids.componentName.toList := Identifiers.isWord_of_ofTitle hids
  obtain ⟨hhook, -, hlists, hshown⟩ := rendering_ofFields hword form
  have houtlines := @outlines_fileLines ids form hword
  have hmain := hooks_mainBody ids form (Usage.ofFields false form.fields) hhook []
  rw [List.append_nil, hooks, List.append_nil, ← mainBodyOf] at hmain
  have hnames : ∀ name ∈ (innerComponents ids form).map SubComponent.name,
      IsInnerNameOf ids.componentName name := by
    rw [List.forall_mem_map]
    exact forall_mem_of_forall₂ hlists fun _ _ h => h.name
  have hinner : ∀ c ∈ innerComponents ids form, hooks c.bodyLines = [some "name: path,"] :=
    forall_mem_of_forall₂ hlists fun _ _ h => hooks_bodyLines h
  refine ⟨form.perm_lists_places, (innerComponents ids form).map fun c => (c.name, c.bodyLines),
    mainBodyOf ids form, houtlines.definitions_eq, ?_, hmain, ?_, ?_, ?_⟩
  · rw [houtlines.props, List.map_map]
    rfl
  · rw [List.forall₂_map_right_iff]
    exact forall₂_imp_of_mem hlists fun list c hc h => isComponentOf_of_rendersList hword hc h
  · rw [houtlines.hooks_eq, houtlines.definitions_eq, List.flatMap_append, List.flatMap_singleton,
      hmain, List.flatMap_map, List.map_eq_flatMap]
    refine congrArg (· ++ _) (List.flatMap_congr fun c hc => ?_)
    exact (hinner c hc).symm
  · have hnodup := nodup_names (nodup_rendered ids form.fields) hnames
    rw [List.map_map] at hnodup
    rw [houtlines.definitions_eq, houtlines.props, List.map_append, List.map_map]
    exact hnodup

/-- A list of texts. -/
def textList (name : String) : Field :=
  .leaf ⟨name, .known .array, "Entry", false, none, [], none, none, none⟩

/-- A list of lists of texts. -/
def photoList : Field :=
  ⟨⟨"my photos", .known .array, "Photo", false, none, [], none, none, none⟩, [textList "tags"]⟩

/-- A form with lists inside lists, two of which ask for the same name. -/
def tripForm : Form :=
  ⟨"Trip log",
    [textList "tags",
      ⟨⟨"stops", .known .array, "Stop", false, none, [], none, none, none⟩,
        [photoList, textList "my-photos"]⟩]⟩

/-- The file of the form has a component for each of the three inner lists. -/
theorem tripForm_hooks :
    ∃ tags photos others main,
      definitions (fileLines ⟨"TripLog", "tripLog"⟩ tripForm) =
        [tags, photos, others, ("TripLog", main)] ∧
      hooks main = [some "name: 'tags',", some "name: 'stops',"] ∧
      IsComponentOf (fileLines ⟨"TripLog", "tripLog"⟩ tripForm) (textList "tags") tags ∧
      IsComponentOf (fileLines ⟨"TripLog", "tripLog"⟩ tripForm) photoList photos ∧
      IsComponentOf (fileLines ⟨"TripLog", "tripLog"⟩ tripForm) (textList "my-photos") others ∧
      [tags.1, photos.1, others.1, "TripLog", "TripLogProps", subComponentProps tags.1,
        subComponentProps photos.1, subComponentProps others.1].Nodup := by
  have hids : Identifiers.ofTitle tripForm.title = .ok ⟨"TripLog", "tripLog"⟩ := rfl
  obtain ⟨-, inner, main, hdefinitions, hprops, hmain, hinner, -, hnodup⟩ :=
    hooks_match_lists hids
  have hlists : tripForm.innerLists = [textList "tags", photoList, textList "my-photos"] := rfl
  rw [hlists] at hinner
  obtain ⟨tags, second, htags, hsecond, rfl⟩ := List.forall₂_cons_left_iff.mp hinner
  obtain ⟨photos, third, hphotos, hthird, rfl⟩ := List.forall₂_cons_left_iff.mp hsecond
  obtain ⟨others, last, hothers, hlast, rfl⟩ := List.forall₂_cons_left_iff.mp hthird
  obtain rfl := List.forall₂_nil_left_iff.mp hlast
  rw [hdefinitions, hprops] at hnodup
  exact ⟨tags, photos, others, main, hdefinitions, hmain, htags, hphotos, hothers, hnodup⟩

end WebForm.Form
