import WebForm.Proofs.Component.Rendering
/-!
# Names of inner components

Inner components are named when they are met and finished when what is inside them is complete, so
the component of a list is finished after those of the lists in its items. A name that is given out
was not taken before, and stays taken. Hence the components that are finished while some fields are
rendered have names that were free when the rendering of these fields began, and no two components
have the same name.
-/

set_option autoImplicit false

namespace WebForm.Component

/-! ## Growing -/

/-- Rendering only adds: names that are taken, and finished components under names that were free
before and are taken afterwards. -/
structure Parts.Grows (before after : Parts) : Prop where
  taken : before.taken ⊆ after.taken
  finished : ∃ new, after.finished = before.finished ++ new ∧
    (new.map SubComponent.name).Nodup ∧
      ∀ c ∈ new, c.name ∉ before.taken ∧ c.name ∈ after.taken

namespace Parts.Grows

theorem refl (parts : Parts) : Grows parts parts := by
  refine ⟨List.Subset.refl _, [], (List.append_nil _).symm, List.nodup_nil, ?_⟩
  intro c hc
  cases hc

theorem trans {a b c : Parts} (hab : Grows a b) (hbc : Grows b c) : Grows a c := by
  obtain ⟨first, hfirst, hnodup, hnames⟩ := hab.finished
  obtain ⟨second, hsecond, hnodup', hnames'⟩ := hbc.finished
  refine ⟨List.Subset.trans hab.taken hbc.taken, first ++ second, ?_, ?_, ?_⟩
  · rw [hsecond, hfirst, List.append_assoc]
  · rw [List.map_append, List.nodup_append]
    refine ⟨hnodup, hnodup', ?_⟩
    -- the first names are taken when the second ones are chosen
    rintro _ hleft _ hright rfl
    obtain ⟨d, hd, rfl⟩ := List.mem_map.mp hleft
    obtain ⟨e, he, hsame⟩ := List.mem_map.mp hright
    exact (hnames' e he).1 (hsame ▸ (hnames d hd).2)
  · intro d hd
    rcases List.mem_append.mp hd with hd | hd
    · exact ⟨(hnames d hd).1, hbc.taken (hnames d hd).2⟩
    · exact ⟨fun htaken => (hnames' d hd).1 (hab.taken htaken), (hnames' d hd).2⟩

/-- A component that is named, and finished when what is inside it is rendered, is one more. -/
theorem finish {parts inside : Parts} {c : SubComponent} (hfree : c.name ∉ parts.taken)
    (h : Grows ⟨c.name :: parts.taken, parts.finished⟩ inside) :
    Grows parts ⟨inside.taken, inside.finished ++ [c]⟩ := by
  obtain ⟨new, hnew, hnodup, hnames⟩ := h.finished
  have htaken : c.name ∈ inside.taken := h.taken List.mem_cons_self
  refine ⟨fun name hname => h.taken (List.mem_cons_of_mem _ hname), new ++ [c], ?_, ?_, ?_⟩
  · rw [show inside.finished = parts.finished ++ new from hnew, List.append_assoc]
  · rw [List.map_append, List.nodup_append]
    refine ⟨hnodup, List.nodup_singleton _, ?_⟩
    -- the name was taken before anything inside was named
    rintro _ hleft _ hlast rfl
    obtain ⟨d, hd, hsame⟩ := List.mem_map.mp hleft
    rw [List.map_singleton, List.mem_singleton] at hlast
    exact (hnames d hd).1 (hsame.trans hlast ▸ List.mem_cons_self)
  · intro d hd
    rcases List.mem_append.mp hd with hd | hd
    · exact ⟨fun hmem => (hnames d hd).1 (List.mem_cons_of_mem _ hmem), (hnames d hd).2⟩
    · obtain rfl := List.mem_singleton.mp hd
      exact ⟨hfree, htaken⟩

end Parts.Grows

/-! ## Rendering -/

section
variable {parts parts' : Parts}

/-- What is finished with the other fields comes later than what is finished with the first. -/
theorem grows_mapM {render : Field → Render Markup} {fs : List Field}
    (h : ∀ f ∈ fs, ∀ parts m parts', (render f).run parts = (m, parts') → parts.Grows parts')
    {ms : List Markup} (hrun : (fs.mapM render).run parts = (ms, parts')) :
    parts.Grows parts' := by
  induction fs generalizing parts ms with
  | nil =>
    obtain ⟨-, rfl⟩ := run_pure_eq_iff.mp hrun
    exact .refl parts
  | cons f rest ih =>
    obtain ⟨m, mid, tail, hm, htail, -⟩ := run_mapM_cons_eq_iff.mp hrun
    have hfirst := h f List.mem_cons_self parts m mid hm
    exact hfirst.trans (ih (fun g hg => h g (List.mem_cons_of_mem f hg)) htail)

/-- Rendering a field of an item only adds components, under new names. -/
theorem grows_itemField (f : Field) : ∀ component within parent parts m parts',
    (itemField component within parent f).run parts = (m, parts') → parts.Grows parts' := by
  induction f using Field.induction with
  | mk spec children ih =>
    intro component within parent parts m parts' h
    cases itemRun_of_run h with
    | note => exact .refl parts
    | value => exact .refl parts
    | list _ hfree hfields =>
      exact .finish hfree (grows_mapM (fun c hc => ih c hc _ _ _) hfields)

theorem grows_itemFields {component parent : String} {within : FieldPath} {fs : List Field}
    {ms : List Markup}
    (h : (fs.mapM (itemField component within parent)).run parts = (ms, parts')) :
    parts.Grows parts' :=
  grows_mapM (fun f _ => grows_itemField f component within parent) h

theorem grows_topField {component : String} {handles : List (String × Handles)} {f : Field}
    {m : Markup} (h : (topField component handles f).run parts = (m, parts')) :
    parts.Grows parts' := by
  cases topRun_of_run h with
  | note => exact .refl parts
  | value => exact .refl parts
  | list _ hfields => exact grows_itemFields hfields

/-- No two inner components have the same name, and none has that of the component or of its
properties. -/
theorem nodup_rendered (ids : Identifiers) (fields : List Field) :
    (ids.propsName :: ids.componentName ::
      (Rendered.ofFields ids fields).subComponents.map SubComponent.name).Nodup := by
  obtain ⟨ms, parts, hrun, hrendered⟩ := exists_run_ofFields ids fields
  obtain ⟨new, hnew, hnodup, hnames⟩ := (grows_mapM (fun f _ _ _ _ => grows_topField) hrun).finished
  have hall : (Rendered.ofFields ids fields).subComponents = new := by
    rw [hrendered]
    exact hnew
  have hfree : ∀ name ∈ [ids.propsName, ids.componentName],
      name ∉ new.map SubComponent.name := by
    intro name hname hmem
    obtain ⟨c, hc, rfl⟩ := List.mem_map.mp hmem
    exact (hnames c hc).1 hname
  have hprops : ids.propsName ≠ ids.componentName := by
    -- both are put together from one name, with endings of different lengths
    intro hsame
    have hlength := congrArg String.length hsame
    simp [Identifiers.propsName, Identifiers.componentName] at hlength
  rw [hall, List.nodup_cons, List.mem_cons, not_or, List.nodup_cons]
  exact ⟨⟨hprops, hfree _ (by simp)⟩, hfree _ (by simp), hnodup⟩

end

end WebForm.Component
