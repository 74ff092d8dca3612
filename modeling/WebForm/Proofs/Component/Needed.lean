import WebForm.Proofs.Component.Hooks
import WebForm.Proofs.Component.Opened
import WebForm.Proofs.Component.Taken
/-!
# What a component file needs

A component file names what it imports in three ways: an element is opened, a hook is called, and
the type of a property is applied to an argument. Hooks are called by the statements of a component,
and properties are members of an interface; all of these stand one step deep in what they belong to.
What is read there, together with the elements that are opened, are exactly the names that are
imported; and of the form the main component takes exactly what it refers to.
-/

set_option autoImplicit false

namespace WebForm.Component

open Script Source Identifier Markup

/-! ## Reading -/

/-- The names that some tokens apply, to arguments or to types. -/
def appliedIn : List Token → List String
  | .word name :: .mark "(" :: rest => name :: appliedIn rest
  | .word name :: .mark "<" :: rest => name :: appliedIn rest
  | _ :: rest => appliedIn rest
  | [] => []

/-- The names that a line applies, if it starts a statement of a component or is a member of an
interface. -/
def appliedNames (l : Line) : List String :=
  if l.depth = 1 then ((tokens? l.text).map appliedIn).getD [] else []

/-- The hooks and the types that some lines apply. -/
def applied (ls : List Line) : List String := ls.flatMap appliedNames

/-- The names that some lines take from what a hook returns. -/
def takenFrom (hook : String) (ls : List Line) : List String :=
  bindings (ls.filter fun l => (appliedNames l).contains hook)

@[simp] theorem applied_cons (l : Line) (rest : List Line) :
    applied (l :: rest) = appliedNames l ++ applied rest := List.flatMap_cons

@[simp] theorem applied_append (ls ls' : List Line) :
    applied (ls ++ ls') = applied ls ++ applied ls' := List.flatMap_append

theorem appliedNames_of_tokens? {text : String} {ts : List Token} (h : tokens? text = some ts) :
    appliedNames ⟨1, text⟩ = appliedIn ts := by
  rw [appliedNames, if_pos rfl, h]
  rfl

theorem appliedNames_of_depth {l : Line} (h : l.depth ≠ 1) : appliedNames l = [] := if_neg h

/-- Nothing at the top of the file is a statement of a component. -/
@[simp] theorem appliedNames_zero (text : String) : appliedNames ⟨0, text⟩ = [] := rfl

/-- Deeper lines start no statement. -/
theorem applied_of_atLeast {ls : List Line} (h : ∀ l ∈ ls, AtLeast 2 l) : applied ls = [] := by
  refine List.flatMap_eq_nil_iff.mpr fun l hl => appliedNames_of_depth fun hdepth => ?_
  rcases h l hl with hdeep | rfl
  · omega
  · cases hdepth

/-! ## Imports and properties -/

theorem applied_importLines {names : List (String × Bool)} (source : String)
    (h : ∀ name ∈ names.map Prod.fst, appliedNames ⟨1, name ++ ","⟩ = []) :
    applied (importLines (usedNames names) source) = [] := by
  have hentries : applied ((usedNames names).map fun name => ⟨1, name ++ ","⟩) = [] := by
    refine List.flatMap_eq_nil_iff.mpr (List.forall_mem_map.mpr fun name hname => ?_)
    exact h name (mem_of_mem_usedNames hname)
  rw [importLines, applied_append, applied_cons, hentries]
  rfl

/-- Imports apply nothing. -/
theorem applied_fileImports (ids : Identifiers) (u : Usage) : applied (fileImports ids u) = [] := by
  have hform : applied (importLines (formImports u) "react-hook-form") = [] := by
    refine applied_importLines _ ?_
    simp only [List.map_cons, List.map_nil]
    decide
  have helements : applied (importLines (elementImports u) "@chakra-ui/react") = [] := by
    refine applied_importLines _ ?_
    simp only [List.map_cons, List.map_nil]
    decide
  have hselect : applied (if u.select then
      [⟨0, "import \x7b SelectFieldWrapper \x7d from './SelectFieldWrapper';"⟩] else []) = [] := by
    cases u.select <;> rfl
  simp only [fileImports, List.cons_append, applied_cons, applied_append, hform, helements,
    hselect, appliedNames_zero]
  rfl

/-- The only property of the main component is a function that may be missing. -/
theorem applied_propsLines (ids : Identifiers) : applied (propsLines ids) = [] := by
  have hmember : tokens? ("onSubmit?: (data: " ++ (ids.formDataType ++ ") => void;")) = none := by
    rw [tokens?, String.toList_append]
    rfl
  rw [propsLines, applied_cons, applied_cons, appliedNames_zero, appliedNames, if_pos rfl,
    String.append_assoc, hmember]
  rfl

/-! ## Components -/

/-- What a component shows stands deeper than its statements. -/
theorem applied_return (m : Markup) :
    applied (⟨1, "return ("⟩ :: m.lines 2 ++ [⟨1, ");"⟩]) = ["return"] := by
  have hopen : appliedNames ⟨1, "return ("⟩ = ["return"] := rfl
  have hclose : applied [⟨1, ");"⟩] = [] := rfl
  rw [List.cons_append, applied_cons, applied_append, hopen, hclose,
    applied_of_atLeast (atLeast_lines m 2)]
  rfl

/-- An inner component applies the types of its properties, and calls the hook of its list. -/
theorem SubComponent.applied_lines (c : SubComponent) :
    applied (c.lines ++ [Line.blank]) =
      ["Control", "UseFormRegister", "FormState", "useFieldArray", "return"] := by
  have hmembers : applied [⟨1, "control: Control<any>;"⟩, ⟨1, "register: UseFormRegister<any>;"⟩,
      ⟨1, "formState: FormState<any>;"⟩, ⟨1, "path: string;"⟩, ⟨0, "\x7d"⟩, .blank] =
      ["Control", "UseFormRegister", "FormState"] := rfl
  have hhook : applied (hookBlock "const \x7b fields, append, remove \x7d = useFieldArray(\x7b"
      "name: path,") = ["useFieldArray"] := rfl
  have hbody : applied (c.bodyLines ++ [closingLine]) = ["useFieldArray", "return"] := by
    have hclose : applied [closingLine] = [] := rfl
    rw [applied_append, SubComponent.bodyLines, applied_append, hhook, applied_return, hclose]
    rfl
  have hblank : applied [Line.blank] = [] := rfl
  rw [c.lines_eq, applied_append, applied_append, applied_cons, hmembers, appliedNames_zero,
    applied_cons, hbody, appliedNames_zero, hblank]
  rfl

theorem appliedIn_patternTokens (u : Usage) (rest : List Token) :
    appliedIn (patternTokens (formBindings u) ++ rest) = appliedIn rest := by
  rw [formBindings]
  cases u.control <;> cases u.register <;> rfl

theorem appliedNames_formCall {ids : Identifiers} (htype : isIdentifier ids.formDataType = true)
    (u : Usage) :
    appliedNames ⟨1, "const \x7b " ++ ", ".intercalate (formBindings u) ++ " \x7d = useForm<" ++
      ids.formDataType ++ ">(\x7b"⟩ = ["useForm"] := by
  rw [appliedNames_of_tokens? (tokens?_formCall htype u), appliedIn_patternTokens]
  rfl

/-- Behind the call that makes the form its lines apply nothing more. -/
theorem applied_tail_formLines (ids : Identifiers) (u : Usage) (fields : List Field) :
    applied (formLines ids u fields).tail = [] := by
  have hoptions : ∀ l ∈ (formLines ids u fields).tail, AtLeast 2 l ∨ l = ⟨1, "\x7d);"⟩ := by
    simp only [formLines, List.cons_append, List.nil_append, List.tail_cons, List.forall_mem_cons,
      List.forall_mem_append, List.forall_mem_map]
    simp [AtLeast]
  refine List.flatMap_eq_nil_iff.mpr fun l hl => ?_
  rcases hoptions l hl with hdeep | rfl
  · have hone := applied_of_atLeast (List.forall_mem_singleton.mpr hdeep)
    rw [applied_cons] at hone
    exact (List.append_eq_nil_iff.mp hone).1
  · rfl

/-- The call of the hook of a list is its only statement. -/
theorem applied_hookLines {h : Handles} (hnames : h.Nameable) (name : String) :
    applied (hookLines name h) = ["useFieldArray"] := by
  have hcall : appliedNames ⟨1, hookCall h⟩ = ["useFieldArray"] := by
    rw [appliedNames_of_tokens? (tokens?_hookCall hnames)]
    rfl
  have hinside : applied [⟨2, "control,"⟩, ⟨2, listLine name⟩] = [] :=
    applied_of_atLeast (by simp [AtLeast])
  have hend : applied [⟨1, "\x7d);"⟩, .blank] = [] := rfl
  have hlines : hookLines name h = ⟨1, hookCall h⟩ ::
      ([⟨2, "control,"⟩, ⟨2, listLine name⟩] ++ [⟨1, "\x7d);"⟩, Line.blank]) := rfl
  rw [hlines, applied_cons, applied_append, hcall, hinside, hend]
  rfl

theorem applied_submitLines {ids : Identifiers} (htype : isIdentifier ids.formDataType = true) :
    applied (submitLines ids) = ["async"] := by
  have hcall : appliedNames
      ⟨1, "const onSubmit = async (data: " ++ ids.formDataType ++ ") => \x7b"⟩ = ["async"] := by
    rw [appliedNames_of_tokens? (tokens?_submitCall htype)]
    rfl
  have hrest : applied (submitLines ids).tail = [] := rfl
  rw [submitLines, List.tail_cons] at hrest
  rw [submitLines, applied_cons, hcall, hrest]
  rfl

section
variable {ids : Identifiers} {form : Form}

/-- The statements of the main component behind the one that makes the form. -/
def laterStatements (ids : Identifiers) (form : Form) : List Line :=
  (formLines ids (Usage.ofFields false form.fields) form.fields).tail ++ [Line.blank] ++
    (arrayHandles form.fields).flatMap (fun entry => hookLines entry.1 entry.2) ++
    (submitLines ids ++ [Line.blank] ++
      (⟨1, "return ("⟩ :: (pageMarkup form.title (shownFields ids form)).lines 2 ++ [⟨1, ");"⟩]))

theorem mainBodyOf_eq_cons :
    mainBodyOf ids form =
      ⟨1, "const \x7b " ++ ", ".intercalate (formBindings (Usage.ofFields false form.fields)) ++
        " \x7d = useForm<" ++ ids.formDataType ++ ">(\x7b"⟩ :: laterStatements ids form := rfl

/-- These call a hook for each list at the top. -/
theorem applied_laterStatements (htype : isIdentifier ids.formDataType = true) :
    applied (laterStatements ids form) =
      (arrayHandles form.fields).map (fun _ => "useFieldArray") ++ ["async", "return"] := by
  have hhooks : applied ((arrayHandles form.fields).flatMap
      fun entry => hookLines entry.1 entry.2) =
      (arrayHandles form.fields).map fun _ => "useFieldArray" := by
    rw [applied, List.flatMap_assoc, List.map_eq_flatMap]
    exact List.flatMap_congr fun entry hentry =>
      applied_hookLines (nameable_of_mem_arrayHandles entry hentry) entry.1
  have hblank : applied [Line.blank] = [] := rfl
  rw [laterStatements, applied_append, applied_append, applied_append, applied_append,
    applied_append, applied_return, applied_tail_formLines, hhooks, applied_submitLines htype,
    hblank]
  simp

/-- What the main component takes from the form. -/
theorem takenFrom_mainBodyOf (htype : isIdentifier ids.formDataType = true) :
    takenFrom "useForm" (mainBodyOf ids form) =
      formBindings (Usage.ofFields false form.fields) := by
  have hcall := tokens?_formCall htype (Usage.ofFields false form.fields)
  have hlater : ∀ l ∈ laterStatements ids form, (appliedNames l).contains "useForm" = false := by
    intro l hl
    have hnone : "useForm" ∉ applied (laterStatements ids form) := by
      simp [applied_laterStatements htype]
    rw [Bool.eq_false_iff, ne_eq, List.contains_iff_mem]
    exact fun hmem => hnone (List.mem_flatMap.mpr ⟨l, hl, hmem⟩)
  have hfilter : (laterStatements ids form).filter (fun l => (appliedNames l).contains "useForm") =
      [] := List.filter_eq_nil_iff.mpr fun l hl => Bool.eq_false_iff.mp (hlater l hl)
  rw [takenFrom, mainBodyOf_eq_cons, List.filter_cons_of_pos, hfilter, bindings_cons,
    bindingsOf_of_tokens? hcall, (reads_formBindings _).2]
  · exact List.append_nil _
  · rw [appliedNames_formCall htype]
    rfl

end

/-! ## The file -/

/-- The names of the hooks and the types that are used, out of those that may be. -/
def Usage.codeNames (u : Usage) : List String :=
  usedNames
    [("useFieldArray", u.fieldArray), ("Control", u.nestedArray), ("FormState", u.nestedArray),
      ("UseFormRegister", u.nestedArray)]

section
variable {ids : Identifiers} {form : Form}

/-- What is applied in the file: inner components apply what they are handed, and each calls a hook;
and the main component calls hooks. -/
theorem applied_fileLines (htype : isIdentifier ids.formDataType = true) :
    applied (fileLines ids form) =
      (innerComponents ids form).flatMap
          (fun _ => ["Control", "UseFormRegister", "FormState", "useFieldArray", "return"]) ++
        "useForm" :: ((arrayHandles form.fields).map (fun _ => "useFieldArray") ++
          ["async", "return"]) := by
  have hinner : applied ((innerComponents ids form).flatMap fun c => c.lines ++ [Line.blank]) =
      (innerComponents ids form).flatMap
        fun _ => ["Control", "UseFormRegister", "FormState", "useFieldArray", "return"] := by
    rw [applied, List.flatMap_assoc]
    exact List.flatMap_congr fun c _ => c.applied_lines
  have hmain : applied (mainLines ids form (Usage.ofFields false form.fields)
      (shownFields ids form)) =
      "useForm" :: ((arrayHandles form.fields).map (fun _ => "useFieldArray") ++
        ["async", "return"]) := by
    have hclose : applied [closingLine] = [] := rfl
    rw [mainLines_eq, applied_cons, appliedNames_zero, applied_append, ← mainBodyOf,
      mainBodyOf_eq_cons, applied_cons, appliedNames_formCall htype,
      applied_laterStatements htype, hclose]
    simp
  have hblank : applied [Line.blank] = [] := rfl
  have hexport : applied [.blank, ⟨0, "export default " ++ ids.componentName ++ ";"⟩] = [] := rfl
  have hlines : fileLines ids form =
      fileImports ids (Usage.ofFields false form.fields) ++ [Line.blank] ++ propsLines ids ++
        [Line.blank] ++ (innerComponents ids form).flatMap (fun c => c.lines ++ [Line.blank]) ++
        mainLines ids form (Usage.ofFields false form.fields) (shownFields ids form) ++
        [Line.blank, ⟨0, "export default " ++ ids.componentName ++ ";"⟩] := rfl
  rw [hlines]
  simp only [applied_append, applied_fileImports, applied_propsLines, hinner, hmain, hblank,
    hexport, List.nil_append, List.append_nil]

/-- **What a component file applies** is what its fields use. -/
theorem mem_applied_fileLines (hword : IsWord ids.componentName.toList)
    (htype : isIdentifier ids.formDataType = true) :
    ∀ name ∈ conditionalNames, name ∈ applied (fileLines ids form) ↔
      name ∈ (Usage.ofFields false form.fields).codeNames := by
  intro name hname
  have hothers : name ≠ "useForm" ∧ name ≠ "async" ∧ name ≠ "return" := by
    refine ⟨?_, ?_, ?_⟩ <;> rintro rfl <;> exact absurd hname (by decide)
  have hfields := Usage.fieldArray_iff_arrayHandles form.fields
  have hnested := Usage.nestedArray_iff_innerComponents hword form
  have hboth := @Usage.fieldArray_of_nestedArray form.fields
  rw [Ne, List.eq_nil_iff_forall_not_mem, not_forall_not] at hfields hnested
  rw [applied_fileLines htype, Usage.codeNames]
  simp only [mem_usedNames, List.mem_append, List.mem_cons, List.mem_flatMap, List.mem_map,
    List.not_mem_nil, or_false, Prod.mk.injEq, hothers.1, hothers.2.1, hothers.2.2, false_or]
  grind

/-- The names that are imported only if they are used. -/
theorem mem_libraryNames (u : Usage) :
    ∀ name ∈ conditionalNames, name ∈ libraryNames u ↔
      name ∈ u.elementNames ∨ name ∈ u.codeNames := by
  have hmap (names : List (String × Bool)) :
      (usedNames names).map bareName = usedNames (names.map fun e => (bareName e.1, e.2)) := by
    simp [usedNames, List.filter_map, Function.comp_def]
  have hform : (formImports u).map bareName =
      usedNames [("useForm", true), ("useFieldArray", u.fieldArray), ("Controller", u.controller),
        ("Control", u.nestedArray), ("FormState", u.nestedArray),
        ("UseFormRegister", u.nestedArray)] := by
    rw [formImports, hmap]
    simp +decide [bareName]
  have helements : (elementImports u).map bareName = elementImports u := by
    rw [elementImports, hmap]
    simp +decide [bareName]
  rw [libraryNames_eq, hform, helements]
  simp only [conditionalNames, List.forall_mem_cons]
  simp [elementImports, Usage.elementNames, Usage.elementParts, Usage.codeNames, mem_usedNames]

/-- What the file imports, out of what it imports only if it is used. -/
theorem mem_importedNames (hids : Identifiers.ofTitle form.title = .ok ids) :
    ∀ name ∈ conditionalNames, name ∈ importedNames (fileLines ids form) ↔
      name ∈ (Usage.ofFields false form.fields).elementNames ∨
        name ∈ (Usage.ofFields false form.fields).codeNames := by
  intro name hname
  obtain ⟨hschema, htype⟩ := Identifiers.isIdentifier_of_ofTitle hids
  have hnames : name ∉ [ids.schemaName, ids.formDataType] := by
    have hends : ∀ name ∈ conditionalNames,
        ¬ "Schema".toList <:+ name.toList ∧ ¬ "FormData".toList <:+ name.toList := by decide
    rw [List.mem_pair, not_or]
    constructor
    · rintro rfl
      refine (hends _ hname).1 ?_
      rw [Identifiers.schemaName, String.toList_append]
      exact List.suffix_append _ _
    · rintro rfl
      refine (hends _ hname).2 ?_
      rw [Identifiers.formDataType, String.toList_append]
      exact List.suffix_append _ _
  rw [importedNames_fileLines hschema htype, List.mem_append, or_iff_left hnames,
    mem_libraryNames _ name hname]

end

end WebForm.Component

namespace WebForm.Form

open Component Source Identifier

/-- **The component file imports and binds exactly what it uses.** Let the title of a form give
names. Of what is imported only for some forms, the file imports a name exactly if one of its
components opens an element of this name or calls a hook of this name, or if the properties of one
have a type of this name. And the main component takes the control of the form, or the function that
registers inputs, exactly if its own body refers to it. -/
theorem imports_what_is_used {form : Form} {ids : Identifiers}
    (hids : Identifiers.ofTitle form.title = .ok ids) :
    (∀ name ∈ conditionalNames, name ∈ importedNames (fileLines ids form) ↔
      name ∈ (elements (fileLines ids form)).map (fun tag => leadingName tag.toList) ∨
        name ∈ applied (fileLines ids form)) ∧
      ∃ inner main,
        definitions (fileLines ids form) = inner ++ [(ids.componentName, main)] ∧
        ∀ name ∈ formNames, name ∈ takenFrom "useForm" main ↔ name ∈ referredNames main := by
  have hword : IsWord ids.componentName.toList := Identifiers.isWord_of_ofTitle hids
  obtain ⟨hschema, htype⟩ := Identifiers.isIdentifier_of_ofTitle hids
  refine ⟨fun name hname => ?_, (innerComponents ids form).map fun c => (c.name, c.bodyLines),
    mainBodyOf ids form, (@outlines_fileLines ids form hword).definitions_eq, ?_⟩
  · rw [mem_importedNames hids name hname, mem_applied_fileLines hword htype name hname,
      ← openedIn_map_text, opens_fileLines hids name hname]
  · have hused := @mem_referredNames_iff_usage ids form hword htype hschema
    have hbound : ∀ u : Usage, ("control" ∈ formBindings u ↔ u.control = true) ∧
        ("register" ∈ formBindings u ↔ u.register = true) := by
      intro u
      simp [formBindings, mem_usedNames]
    simp only [formNames, List.forall_mem_cons, takenFrom_mainBodyOf htype]
    refine ⟨?_, ?_, List.forall_mem_nil _⟩
    · rw [(hbound _).1, hused.1]
    · rw [(hbound _).2, hused.2]

/-- A form with lists of texts needs no controller and no other control than an input. -/
theorem tripForm_imports :
    (∀ name ∈ ["useFieldArray", "Control", "FormState", "UseFormRegister", "HStack", "Input",
        "Text"],
      name ∈ (elements (fileLines ⟨"TripLog", "tripLog"⟩ tripForm)).map
          (fun tag => leadingName tag.toList) ∨
        name ∈ applied (fileLines ⟨"TripLog", "tripLog"⟩ tripForm)) ∧
      (∀ name ∈ ["Controller", "Checkbox", "RadioGroup", "Stack", "Textarea",
          "SelectFieldWrapper"],
        name ∉ (elements (fileLines ⟨"TripLog", "tripLog"⟩ tripForm)).map
            (fun tag => leadingName tag.toList) ∧
          name ∉ applied (fileLines ⟨"TripLog", "tripLog"⟩ tripForm)) ∧
      ∃ inner main,
        definitions (fileLines ⟨"TripLog", "tripLog"⟩ tripForm) = inner ++ [("TripLog", main)] ∧
        "control" ∈ referredNames main ∧ "register" ∈ referredNames main := by
  have hids : Identifiers.ofTitle tripForm.title = .ok ⟨"TripLog", "tripLog"⟩ := rfl
  have hword : IsWord "TripLog".toList := Identifiers.isWord_of_ofTitle hids
  obtain ⟨hschema, htype⟩ := Identifiers.isIdentifier_of_ofTitle hids
  obtain ⟨himports, inner, main, hdefinitions, hbound⟩ := imports_what_is_used hids
  have himported := importedNames_fileLines hschema htype tripForm
  have husage : Usage.ofFields false tripForm.fields =
      { input := true, fieldArray := true, nestedArray := true } := rfl
  rw [husage] at himported
  -- the last component of the file is the main one
  have hmain : main = mainBodyOf ⟨"TripLog", "tripLog"⟩ tripForm := by
    have houtlines := (@outlines_fileLines ⟨"TripLog", "tripLog"⟩ tripForm hword).definitions_eq
    have hlast := (List.append_inj' (hdefinitions.symm.trans houtlines) rfl).2
    exact (Prod.mk.inj (List.cons.inj hlast).1).2
  refine ⟨fun name hname => ?_, fun name hname => ?_, inner, main, hdefinitions, ?_⟩
  · have hconditional : name ∈ conditionalNames ∧
        name ∈ importedNames (fileLines ⟨"TripLog", "tripLog"⟩ tripForm) := by
      rw [himported]
      revert name
      decide +kernel
    exact (himports name hconditional.1).mp hconditional.2
  · have hconditional : name ∈ conditionalNames ∧
        name ∉ importedNames (fileLines ⟨"TripLog", "tripLog"⟩ tripForm) := by
      rw [himported]
      revert name
      decide +kernel
    rw [← not_or, ← himports name hconditional.1]
    exact hconditional.2
  · have htaken : takenFrom "useForm" main =
        ["control", "handleSubmit", "register", "formState"] := by
      rw [hmain, takenFrom_mainBodyOf htype, husage]
      rfl
    rw [htaken] at hbound
    exact ⟨(hbound "control" (by decide)).mp (by decide),
      (hbound "register" (by decide)).mp (by decide)⟩

end WebForm.Form
