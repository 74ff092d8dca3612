import WebForm.Compiled
import WebForm.Proofs.Component.Imports
import WebForm.Proofs.Identifier.Title
/-!
# Names that a component file declares and imports

The components of a file and their properties are declared at the level at which the file imports.
No inner component and no properties have a name that is imported. The main component has one if the
title of the form is cased to it: its name is put aside before the inner components are named, but
the names that are imported are not put aside before it is chosen.
-/

set_option autoImplicit false

namespace WebForm.Component

open Source Identifier

/-! ## Declared names -/

/-- All names that a file declares at its top: components and interfaces. -/
def declaredNames (ls : List Line) : List String :=
  (definitions ls).map Prod.fst ++ interfaces ls

/-- The names that a file both declares and imports. -/
def clashingNames (ls : List Line) : List String :=
  (declaredNames ls).filter fun name => (importedNames ls).contains name

/-! ## Names that are not imported -/

/-- A component that uses everything. -/
def Usage.all : Usage := ⟨true, true, true, true, true, true, true⟩

theorem usedNames_subset {names names' : List (String × Bool)}
    (h : usedNames names' = names.map Prod.fst) : usedNames names ⊆ usedNames names' := by
  rw [h]
  exact fun _ => mem_of_mem_usedNames

theorem libraryNames_eq (u : Usage) :
    libraryNames u = ["React"] ++ (formImports u).map bareName ++ (elementImports u).map bareName ++
      ["zodResolver", "FieldWrapper"] ++ usedNames [("SelectFieldWrapper", u.select)] := by
  rw [libraryNames, libraryImports]
  cases u.select <;> simp [usedNames]

/-- What is imported for some fields is imported if everything is used. -/
theorem libraryNames_subset (u : Usage) : libraryNames u ⊆ libraryNames .all := by
  have hform : formImports u ⊆ formImports .all := usedNames_subset rfl
  have helements : elementImports u ⊆ elementImports .all := usedNames_subset rfl
  have hselect : usedNames [("SelectFieldWrapper", u.select)] ⊆ ["SelectFieldWrapper"] :=
    fun _ => mem_of_mem_usedNames
  rw [libraryNames_eq, libraryNames_eq]
  intro name hname
  simp only [List.mem_append] at hname ⊢
  rcases hname with (((hname | hname) | hname) | hname) | hname
  · exact .inl (.inl (.inl (.inl hname)))
  · exact .inl (.inl (.inl (.inr (List.map_subset bareName hform hname))))
  · exact .inl (.inl (.inr (List.map_subset bareName helements hname)))
  · exact .inl (.inr hname)
  · exact .inr (hselect hname)

/-- Names of properties are not imported: nothing that is imported ends like them. -/
theorem append_props_not_mem (ids : Identifiers) (u : Usage) (s : String) :
    s ++ "Props" ∉ libraryNames u ++ [ids.schemaName, ids.formDataType] := by
  have hlast : lastChar? (s ++ "Props") = some 's' := lastChar?_append (by decide) s
  have hlibrary : ∀ name ∈ libraryNames .all, lastChar? name ≠ some 's' := by decide
  rw [List.mem_append, List.mem_pair, not_or, not_or]
  refine ⟨fun hmem => hlibrary _ (libraryNames_subset u hmem) hlast, ?_, ?_⟩
  · exact ne_of_lastChar? hlast (by rw [lastChar?_schemaName]; decide)
  · exact ne_of_lastChar? hlast (by rw [lastChar?_formDataType]; decide)

/-- The name of an inner component ends in a digit, or like `FieldArray`. -/
theorem IsInnerNameOf.lastChar? {component name : String} (h : IsInnerNameOf component name) :
    ∃ c, lastChar? name = some c ∧ (c.isDigit = true ∨ c = 'y') := by
  obtain ⟨inside, digits, -, hdigits, rfl⟩ := h
  by_cases hempty : digits = ""
  · subst hempty
    refine ⟨'y', ?_, .inr rfl⟩
    rw [String.append_empty]
    exact lastChar?_append (by decide) _
  · rw [lastChar?_append hempty]
    cases hlast : Component.lastChar? digits with
    | none => exact absurd (String.toList_eq_nil_iff.mp (List.getLast?_eq_none_iff.mp hlast)) hempty
    | some c => exact ⟨c, rfl, .inl (hdigits c (List.mem_of_getLast? hlast))⟩

/-- Names of inner components are not imported. The hook of a list ends like them, but starts with
a small letter. -/
theorem IsInnerNameOf.not_mem {ids : Identifiers} {c : Char} {rest : List Char}
    (hcomponent : ids.componentName.toList = c :: rest) (hc : c.isUpper = true) (u : Usage)
    {name : String} (h : IsInnerNameOf ids.componentName name) :
    name ∉ libraryNames u ++ [ids.schemaName, ids.formDataType] := by
  obtain ⟨d, hlast, hd⟩ := h.lastChar?
  have ha : d ≠ 'a' := by
    rintro rfl
    exact absurd hd (by decide)
  have hne : ∀ other, Component.lastChar? other = some 'a' → name ≠ other := by
    intro other hother
    refine ne_of_lastChar? hlast ?_
    rw [hother]
    exact fun hsame => ha (Option.some.inj hsame).symm
  rw [List.mem_append, List.mem_pair, not_or, not_or]
  refine ⟨fun hmem => ?_, hne _ (lastChar?_schemaName ids), hne _ (lastChar?_formDataType ids)⟩
  have hlibrary : ∀ name ∈ libraryNames .all, name = "useFieldArray" ∨
      (Component.lastChar? name).all (fun d => !d.isDigit && d != 'y') = true := by decide
  rcases hlibrary name (libraryNames_subset u hmem) with rfl | hother
  · obtain ⟨inside, digits, -, -, hname⟩ := h
    have hchars := congrArg String.toList hname
    simp only [String.toList_append, hcomponent, List.cons_append] at hchars
    rw [← (List.cons.inj hchars).1] at hc
    exact absurd hc (by decide)
  · rw [hlast] at hother
    rcases hd with hd | rfl
    · simp [hd] at hother
    · exact absurd hother (by decide)

/-! ## Names that are declared and imported -/

section
variable {ids : Identifiers} {title : String}

/-- The component is not named like anything that is imported from the schema. -/
theorem componentName_mem_iff (h : AreIdentifiersOf title ids.typeName ids.valueName) (u : Usage) :
    ids.componentName ∈ libraryNames u ++ [ids.schemaName, ids.formDataType] ↔
      ids.componentName ∈ libraryNames u := by
  obtain ⟨c, rest, htype, hc, -⟩ := h.pascalCase
  obtain ⟨d, rest', hvalue, hd⟩ := h.camelCase
  have hschema : ids.componentName ≠ ids.schemaName := by
    -- one starts with a capital, the other with a small letter
    intro hsame
    have hchars := congrArg String.toList hsame
    rw [Identifiers.componentName, Identifiers.schemaName, String.toList_append, htype, hvalue,
      List.cons_append] at hchars
    obtain ⟨rfl, -⟩ := List.cons.inj hchars
    exact Char.not_isLower_of_isUpper hc hd
  have hdata : ids.componentName ≠ ids.formDataType := by
    intro hsame
    have hlength := congrArg String.length hsame
    simp [Identifiers.componentName, Identifiers.formDataType] at hlength
  simp [hschema, hdata]

theorem declaredNames_fileLines (hword : IsWord ids.componentName.toList) (form : Form) :
    declaredNames (fileLines ids form) =
      (innerComponents ids form).map SubComponent.name ++ [ids.componentName] ++
        ids.propsName :: (innerComponents ids form).map fun c => subComponentProps c.name := by
  have houtlines := @outlines_fileLines ids form hword
  rw [declaredNames, houtlines.definitions_eq, houtlines.props, List.map_append, List.map_map]
  rfl

/-- Of the names that are declared at the top of the file, only that of the main component can be
imported. -/
theorem clashingNames_fileLines (h : Identifiers.ofTitle title = .ok ids) (form : Form) :
    clashingNames (fileLines ids form) =
      if ids.componentName ∈ libraryNames (Usage.ofFields false form.fields) then
        [ids.componentName] else [] := by
  have hword : IsWord ids.componentName.toList := Identifiers.isWord_of_ofTitle h
  have hids := areIdentifiersOf_of_ofTitle h
  obtain ⟨hschema, htype⟩ := Identifiers.isIdentifier_of_ofTitle h
  obtain ⟨-, -, hlists, -⟩ := rendering_ofFields hword form
  obtain ⟨c, rest, hcomponent, hc, -⟩ := hids.pascalCase
  have hinner : ∀ name ∈ (innerComponents ids form).map SubComponent.name, name ∉
      libraryNames (Usage.ofFields false form.fields) ++ [ids.schemaName, ids.formDataType] := by
    rw [List.forall_mem_map]
    exact forall_mem_of_forall₂ hlists fun _ _ hlist => hlist.name.not_mem hcomponent hc _
  have hprops : ∀ name ∈ ids.propsName ::
      (innerComponents ids form).map (fun c => subComponentProps c.name), name ∉
        libraryNames (Usage.ofFields false form.fields) ++ [ids.schemaName, ids.formDataType] := by
    rw [List.forall_mem_cons, List.forall_mem_map]
    exact ⟨append_props_not_mem ids _ _, fun c _ => append_props_not_mem ids _ c.name⟩
  have hnone : ∀ {declared imported : List String}, (∀ name ∈ declared, name ∉ imported) →
      declared.filter (fun name => imported.contains name) = [] := by
    intro declared imported hall
    rw [List.filter_eq_nil_iff]
    simpa using hall
  rw [clashingNames, declaredNames_fileLines hword, importedNames_fileLines hschema htype,
    List.filter_append, List.filter_append, hnone hinner, hnone hprops, List.nil_append,
    List.append_nil, List.filter_singleton, List.contains_eq_mem, Bool.cond_decide]
  simp only [componentName_mem_iff hids]

end

end WebForm.Component

namespace WebForm.Form

open Component Identifier Outcome

/-- **Only the main component can have the name of an import.** Let a form compile. Its component
file imports what its fields need from the libraries, and the names of its schema. It declares the
main component, a component for each list inside a list, and the properties of all of these. None of
the declared names is imported as well, except that of the main component if the title is cased to a
name that these fields need from the libraries. -/
theorem clashingNames_of_compile {style : Source.Style} {form : Form} {c : CompiledForm}
    (h : form.compile style = .ok c) :
    (⟨.component, c.identifiers.componentFile,
        style.lines (fileLines c.identifiers form)⟩ : Artifact) ∈ c.artifacts ∧
      imports (fileLines c.identifiers form) =
        importsOf c.identifiers (Usage.ofFields false form.fields) ∧
      (∃ inner : List String, inner.length = form.innerLists.length ∧
        declaredNames (fileLines c.identifiers form) =
          inner ++ [c.identifiers.componentName] ++
            c.identifiers.propsName :: inner.map subComponentProps) ∧
      clashingNames (fileLines c.identifiers form) =
        if c.identifiers.componentName ∈ libraryNames (Usage.ofFields false form.fields) then
          [c.identifiers.componentName] else [] := by
  rw [compile] at h
  obtain ⟨ids, hids, h⟩ := bind_eq_ok_iff.mp h
  obtain ⟨schema, -, h⟩ := bind_eq_ok_iff.mp h
  obtain rfl := Except.ok.inj h
  have htitle : Identifiers.ofTitle form.title = .ok ids := mapError_eq_ok_iff.mp hids
  have hword : IsWord ids.componentName.toList := Identifiers.isWord_of_ofTitle htitle
  obtain ⟨hschema, htype⟩ := Identifiers.isIdentifier_of_ofTitle htitle
  obtain ⟨-, -, hlists, -⟩ := rendering_ofFields hword form
  refine ⟨List.mem_cons_self, imports_fileLines hschema htype form,
    ⟨(innerComponents ids form).map SubComponent.name, ?_, ?_⟩,
    clashingNames_fileLines htitle form⟩
  · rw [List.length_map, hlists.length_eq]
  · rw [declaredNames_fileLines hword, List.map_map]
    rfl

/-- A form with one field. -/
def oneFieldForm (title : String) (kind : FieldKind) : Form :=
  ⟨title, [.leaf ⟨"entry", .known kind, "Entry", false, none, [], none, none, none⟩]⟩

theorem oneFieldForm_compile {title : String} {ids : Identifiers}
    (h : Identifiers.ofTitle title = .ok ids) (kind : FieldKind) (style : Source.Style) :
    ∃ c, (oneFieldForm title kind).compile style = .ok c ∧ c.identifiers = ids := by
  have htitle : Identifiers.ofTitle (oneFieldForm title kind).title = .ok ids := h
  rw [compile, htitle]
  cases kind <;> exact ⟨_, rfl, rfl⟩

/-- A form titled `Text` has a component of this name, and the file of a form with a list imports
an element of this name. -/
theorem clashingNames_text :
    (∃ c, (oneFieldForm "Text" .text).compile ⟨.spaces2, .lf⟩ = .ok c ∧
      clashingNames (fileLines c.identifiers (oneFieldForm "Text" .text)) = []) ∧
    ∃ c, (oneFieldForm "Text" .array).compile ⟨.spaces2, .lf⟩ = .ok c ∧
      clashingNames (fileLines c.identifiers (oneFieldForm "Text" .array)) = ["Text"] := by
  have hids : Identifiers.ofTitle "Text" = .ok ⟨"Text", "text"⟩ := rfl
  obtain ⟨plain, hplain, hplainIds⟩ := oneFieldForm_compile hids .text ⟨.spaces2, .lf⟩
  obtain ⟨list, hlist, hlistIds⟩ := oneFieldForm_compile hids .array ⟨.spaces2, .lf⟩
  refine ⟨⟨plain, hplain, ?_⟩, list, hlist, ?_⟩
  · rw [(clashingNames_of_compile hplain).2.2.2, hplainIds]
    decide
  · rw [(clashingNames_of_compile hlist).2.2.2, hlistIds]
    decide

/-- A form titled `Box` has a component of this name, in a file that imports an element of this
name whatever its fields are. -/
theorem box_declared_and_imported :
    ∃ c, (oneFieldForm "Box" .text).compile ⟨.spaces2, .lf⟩ = .ok c ∧
      "Box" ∈ declaredNames (fileLines c.identifiers (oneFieldForm "Box" .text)) ∧
      "Box" ∈ importedNames (fileLines c.identifiers (oneFieldForm "Box" .text)) := by
  have hids : Identifiers.ofTitle "Box" = .ok ⟨"Box", "box"⟩ := rfl
  obtain ⟨c, hc, hcIds⟩ := oneFieldForm_compile hids .text ⟨.spaces2, .lf⟩
  obtain ⟨hschema, htype⟩ := Identifiers.isIdentifier_of_ofTitle hids
  refine ⟨c, hc, ?_, ?_⟩
  · rw [hcIds, declaredNames_fileLines (Identifiers.isWord_of_ofTitle hids)]
    simp [Identifiers.componentName]
  · rw [hcIds, importedNames_fileLines hschema htype]
    decide

end WebForm.Form
