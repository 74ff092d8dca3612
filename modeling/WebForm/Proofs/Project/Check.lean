import Mathlib.Data.List.Nodup
import WebForm.Proofs.Identifier
import WebForm.Proofs.Project.Writing
/-!
# Checking what was generated

The files of a plan go to one directory and have different names, except that the component file
may be named like a support file. Then the support file takes its place, and this is all that a
check finds right after all files were written.
-/

set_option autoImplicit false

namespace WebForm.Project

open Files Outcome

/-! ## The files of a plan -/

/-- A file of the output directory, with its lines in the style of the settings. -/
def fileOf (settings : Settings) (entry : String × List Source.Line) : OutputFile :=
  ⟨joinName settings.outputDir entry.1, settings.style.lines entry.2⟩

theorem content_fileOf (settings : Settings) (entry : String × List Source.Line) :
    (fileOf settings entry).content = settings.style.lines entry.2 := rfl

/-- The name and the lines of the component file. -/
def componentEntry (ids : Identifiers) (form : Form) : String × List Source.Line :=
  (ids.componentFile, Component.fileLines ids form)

/-- The names and lines of the files that are written after the component file. -/
def laterEntries (settings : Settings) (ids : Identifiers) (form : Form) :
    List (String × List Source.Line) :=
  [("schema.ts", Zod.schemaLines ids form.fields),
    ("types.ts", Interface.fileLines ids form.fields)] ++
    if settings.support then Support.files else []

theorem outputFiles_of_compile {settings : Settings} {form : Form} {compiled : CompiledForm}
    (h : form.compile settings.style = .ok compiled) :
    Identifiers.ofTitle form.title = .ok compiled.identifiers ∧
      outputFiles settings compiled =
        (componentEntry compiled.identifiers form ::
          laterEntries settings compiled.identifiers form).map (fileOf settings) := by
  rw [Form.compile] at h
  obtain ⟨ids, hids, h⟩ := bind_eq_ok_iff.mp h
  obtain ⟨schema, -, h⟩ := bind_eq_ok_iff.mp h
  obtain rfl := Except.ok.inj h
  refine ⟨mapError_eq_ok_iff.mp hids, ?_⟩
  rw [outputFiles, laterEntries, componentEntry, List.map_cons, List.map_append]
  simp only [ArtifactKind.all, List.map_cons, List.map_nil, Artifact.ofForm,
    ArtifactKind.fileName, ArtifactKind.lines, fileOf, List.cons_append, List.nil_append]
  cases settings.support with
  | false => simp
  | true => simp [fileOf]

/-- The names of all files that are written after the component file are different, whatever the
form. -/
theorem laterEntries_names (settings : Settings) (ids : Identifiers) (form : Form) :
    (laterEntries settings ids form).map Prod.fst =
      ["schema.ts", "types.ts"] ++
        if settings.support then ["FieldWrapper.tsx", "SelectFieldWrapper.tsx"] else [] := by
  rw [laterEntries, List.map_append]
  cases settings.support <;> rfl

theorem isName_of_mem_laterEntries {settings : Settings} {ids : Identifiers} {form : Form}
    {name : String} (h : name ∈ (laterEntries settings ids form).map Prod.fst) : IsName name := by
  rw [laterEntries_names] at h
  have hall : ∀ name ∈ ["schema.ts", "types.ts"] ++
      ["FieldWrapper.tsx", "SelectFieldWrapper.tsx"], IsName name := by decide
  refine hall name ?_
  split at h
  · exact h
  · rw [List.append_nil] at h
    exact List.mem_append_left _ h

/-- A file named after a form has a name of its own in the output directory. -/
theorem isName_componentFile {title : String} {ids : Identifiers}
    (h : Identifiers.ofTitle title = .ok ids) : IsName ids.componentFile := by
  obtain ⟨c, rest, hname, hc, hrest⟩ := Identifiers.isWord_of_ofTitle h
  have hfile : ids.componentFile.toList = c :: (rest ++ ".tsx".toList) := by
    rw [Identifiers.componentFile, String.toList_append, hname, List.cons_append]
  have hpoint : c ≠ '.' := by
    rintro rfl
    exact absurd hc (by decide)
  constructor
  · rw [hfile, List.mem_cons, List.mem_append, not_or, not_or]
    refine ⟨?_, ?_, by decide⟩
    · rintro rfl
      exact absurd hc (by decide)
    · intro hslash
      exact absurd (hrest _ hslash) (by decide)
  · rintro hempty
    rw [hempty] at hfile
    cases hfile
  · intro hone
    rw [hone] at hfile
    exact hpoint (List.cons.inj hfile).1.symm
  · intro htwo
    rw [htwo] at hfile
    exact hpoint (List.cons.inj hfile).1.symm

/-- Only a support file can be named like the component file. -/
theorem componentFile_ne (ids : Identifiers) :
    ids.componentFile ≠ "schema.ts" ∧ ids.componentFile ≠ "types.ts" := by
  have hlast : ids.componentFile.toList.getLast? = some 'x' := by
    rw [Identifiers.componentFile, String.toList_append, List.getLast?_append]
    rfl
  constructor <;>
  · intro h
    rw [h] at hlast
    exact absurd hlast (by decide)

/-! ### Contents -/

theorem lines_top (style : Source.Style) {text : String} (rest : List Source.Line)
    (h : text.isEmpty = false) :
    style.lines (⟨0, text⟩ :: rest) = text ++ (style.lineEnding.text ++ style.lines rest) := by
  have hline : style.line ⟨0, text⟩ = text ++ style.lineEnding.text := by
    rw [Source.Style.line, h, if_neg Bool.false_ne_true]
    exact congrArg (· ++ _) (String.empty_append)
  rw [Source.Style.lines, List.map_cons, String.join_cons, hline, String.append_assoc,
    Source.Style.lines]

/-- The component file is no support file: both wrappers differ from it in the first two lines. -/
theorem lines_componentEntry_ne (style : Source.Style) (ids : Identifiers) (form : Form)
    {entry : String × List Source.Line} (h : entry ∈ Support.files) :
    style.lines entry.2 ≠ style.lines (componentEntry ids form).2 := by
  obtain ⟨tail, hfile⟩ : ∃ tail, (componentEntry ids form).2 =
      ⟨0, "import React" ++ " from 'react';"⟩ :: ⟨0, "import \x7b"⟩ :: tail := ⟨_, rfl⟩
  rw [hfile, lines_top style _ (by decide), lines_top style _ (by decide)]
  intro hsame
  simp only [Support.files, List.mem_cons, List.not_mem_nil, or_false] at h
  rcases h with rfl | rfl
  · -- one imports names on the lines that follow, the other on the same line
    obtain ⟨tail', hwrapper⟩ : ∃ tail', Support.fieldWrapper =
        ⟨0, "import React" ++ " from 'react';"⟩ ::
          ⟨0, "import \x7b" ++ " Field \x7d from '@chakra-ui/react';"⟩ :: tail' := ⟨_, rfl⟩
    rw [hwrapper, lines_top style _ (by decide), lines_top style _ (by decide),
      String.append_right_inj, String.append_right_inj, String.append_assoc,
      String.append_right_inj] at hsame
    have hhead := congrArg (·.toList.head?) hsame
    cases hend : style.lineEnding <;> simp [hend, Source.LineEnding.text] at hhead
  · obtain ⟨tail', hwrapper⟩ : ∃ tail', Support.selectFieldWrapper =
        ⟨0, "import React" ++ ", \x7b useMemo \x7d from 'react';"⟩ :: tail' := ⟨_, rfl⟩
    rw [hwrapper, lines_top style _ (by decide), String.append_assoc, String.append_assoc,
      String.append_right_inj] at hsame
    have hhead := congrArg (·.toList.head?) hsame
    simp at hhead

/-! ## Checking a plan -/

/-- What a check finds right after all files were written: the component file, if a support file
has taken its place. -/
def overwritten (settings : Settings) (ids : Identifiers) : List Drift :=
  if settings.support && (Support.files.map Prod.fst).contains ids.componentFile then
    [.changed (joinName settings.outputDir ids.componentFile)]
  else []

theorem destination_fileOf (settings : Settings) {entry : String × List Source.Line}
    (h : IsName entry.1) :
    destination (fileOf settings entry).path = destination settings.outputDir ++ [entry.1] :=
  destination_joinName settings.outputDir h

section
variable {settings : Settings} {ids : Identifiers} {form : Form}

theorem destinations_laterEntries :
    ((laterEntries settings ids form).map (fileOf settings)).map (destination ·.path) =
      ((laterEntries settings ids form).map Prod.fst).map
        (destination settings.outputDir ++ [·]) := by
  rw [List.map_map, List.map_map]
  refine List.map_congr_left fun entry hentry => ?_
  exact destination_fileOf settings (isName_of_mem_laterEntries (List.mem_map_of_mem hentry))

/-- No two of the files that follow the component go to one location. -/
theorem nodup_laterEntries :
    (((laterEntries settings ids form).map (fileOf settings)).map (destination ·.path)).Nodup := by
  rw [destinations_laterEntries]
  refine List.Nodup.map (fun a b hab => ?_) ?_
  · exact (List.cons.inj (List.append_cancel_left hab)).1
  · rw [laterEntries_names]
    cases settings.support <;> decide

/-- An entry under the name of the component file is a support file. -/
theorem support_of_mem_laterEntries {entry : String × List Source.Line}
    (h : entry ∈ laterEntries settings ids form) (hname : entry.1 = ids.componentFile) :
    settings.support = true ∧ entry ∈ Support.files := by
  obtain ⟨hschema, htypes⟩ := componentFile_ne ids
  rw [laterEntries] at h
  rcases List.mem_append.mp h with h | h
  · simp only [List.mem_cons, List.not_mem_nil, or_false] at h
    rcases h with rfl | rfl
    · exact absurd hname.symm hschema
    · exact absurd hname.symm htypes
  · split at h
    · next hsupport => exact ⟨hsupport, h⟩
    · cases h

/-- The component file differs from what was written if a support file has its name. -/
theorem driftAfter_component (hids : Identifiers.ofTitle form.title = .ok ids) :
    (driftAfter ((laterEntries settings ids form).map (fileOf settings))
      (fileOf settings (componentEntry ids form))).toList = overwritten settings ids := by
  have hplace : destination (fileOf settings (componentEntry ids form)).path =
      destination settings.outputDir ++ [ids.componentFile] :=
    destination_fileOf settings (isName_componentFile hids)
  rw [driftAfter, overwritten]
  by_cases hmem : ids.componentFile ∈ (laterEntries settings ids form).map Prod.fst
  · obtain ⟨entry, hentry, hname⟩ := List.mem_map.mp hmem
    obtain ⟨hsupport, hfile⟩ := support_of_mem_laterEntries hentry hname
    have hsame : destination (fileOf settings entry).path =
        destination (fileOf settings (componentEntry ids form)).path := by
      rw [hplace, destination_fileOf settings (isName_of_mem_laterEntries (hname ▸ hmem)), hname]
    have hheld := contentAfter_of_nodup (List.mem_map_of_mem hentry)
      (@nodup_laterEntries settings ids form)
      (fileOf settings (componentEntry ids form)).content
    have hother : (fileOf settings entry).content ≠
        (fileOf settings (componentEntry ids form)).content := by
      rw [content_fileOf, content_fileOf]
      exact lines_componentEntry_ne settings.style ids form hfile
    have hlisted : (Support.files.map Prod.fst).contains ids.componentFile = true := by
      rw [List.contains_iff_mem, ← hname]
      exact List.mem_map_of_mem hfile
    rw [← hsame, hheld, if_neg hother, hsupport, hlisted]
    rfl
  · have hnot : destination (fileOf settings (componentEntry ids form)).path ∉
        ((laterEntries settings ids form).map (fileOf settings)).map (destination ·.path) := by
      rw [hplace, destinations_laterEntries]
      intro hplaced
      obtain ⟨name, hname, heq⟩ := List.mem_map.mp hplaced
      rw [(List.cons.inj (List.append_cancel_left heq)).1] at hname
      exact hmem hname
    rw [contentAfter_of_not_mem hnot, if_pos rfl, Option.toList_none, if_neg]
    intro h
    rw [Bool.and_eq_true, List.contains_iff_mem] at h
    refine hmem ?_
    rw [laterEntries, List.map_append, if_pos h.1]
    exact List.mem_append_right _ h.2

end

section
variable {settings : Settings} {path : String} {w planned written : World} {p : Plan}

/-- The files of a plan are those of some form with the identifiers of the plan. -/
theorem exists_form_of_plan (h : runIn w (plan settings path) = (.ok p, planned)) :
    ∃ form, Identifiers.ofTitle form.title = .ok p.compiled.identifiers ∧
      p.files = (componentEntry p.compiled.identifiers form ::
        laterEntries settings p.compiled.identifiers form).map (fileOf settings) := by
  rw [runIn_plan] at h
  obtain ⟨content, -, h⟩ := bind_eq_ok_iff.mp (Prod.mk.inj h).1
  obtain ⟨form, -, h⟩ := bind_eq_ok_iff.mp h
  obtain ⟨compiled, hcompile, h⟩ := bind_eq_ok_iff.mp h
  obtain rfl := Except.ok.inj h
  exact ⟨form, outputFiles_of_compile (mapError_eq_ok_iff.mp hcompile)⟩

/-- What the files of a plan differ in after all of them were written. -/
theorem filterMap_driftAfter_of_plan (h : runIn w (plan settings path) = (.ok p, planned)) :
    p.files.filterMap (driftAfter p.files) = overwritten settings p.compiled.identifiers := by
  obtain ⟨form, hids, hfiles⟩ := exists_form_of_plan h
  rw [hfiles, List.map_cons, filterMap_driftAfter_cons nodup_laterEntries,
    driftAfter_component hids]

/-- Writing elsewhere than to the form does not change the plan. -/
theorem runIn_plan_of_written (hplan : runIn w (plan settings path) = (.ok p, planned))
    (hwrite : runIn planned (p.files.forM writeFile) = (.ok (), written))
    (hform : ∀ file ∈ p.files, destination file.path ≠ destination path) :
    runIn written (plan settings path) = (.ok p, written) := by
  rw [runIn_plan] at hplan
  obtain ⟨hp, rfl⟩ := Prod.mk.inj hplan
  obtain ⟨content, hread, -⟩ := bind_eq_ok_iff.mp hp
  have hcontent : w.files.read path = .ok content := mapError_eq_ok_iff.mp hread
  have hnot : destination path ∉ p.files.map (destination ·.path) := by
    intro hmem
    obtain ⟨file, hfile, hsame⟩ := List.mem_map.mp hmem
    exact hform file hfile hsame
  have hreread : written.files.read path = .ok content :=
    (keeps_writeFiles hwrite).read hnot hcontent
  rw [runIn_plan, hreread, ← hcontent, hp]

/-- A check right after writing compares each file with what was written to its place last. -/
theorem runIn_check_of_written (hplan : runIn w (plan settings path) = (.ok p, planned))
    (hwrite : runIn planned (p.files.forM writeFile) = (.ok (), written))
    (hform : ∀ file ∈ p.files, destination file.path ≠ destination path) :
    runIn written (check settings path) =
      (.ok (p.files.filterMap (driftAfter p.files)), written) := by
  have hagain := runIn_plan_of_written hplan hwrite hform
  have hdrifts := runIn_mapM_driftOf fun file hfile => read_written hfile hwrite
  rw [check, runIn_bind_of_ok hagain, runIn_bind_of_ok hdrifts, runIn_pure, List.filterMap_map,
    Function.id_comp]

/-- **A check right after the files of a plan were written finds nothing, unless a support file
has taken the place of the component.** The form is read again as it was, because the files went
elsewhere. -/
theorem check_after_writing (hplan : runIn w (plan settings path) = (.ok p, planned))
    (hwrite : runIn planned (p.files.forM writeFile) = (.ok (), written))
    (hform : ∀ file ∈ p.files, destination file.path ≠ destination path) :
    runIn written (check settings path) =
      (.ok (overwritten settings p.compiled.identifiers), written) := by
  rw [runIn_check_of_written hplan hwrite hform, filterMap_driftAfter_of_plan hplan]

end

/-- A working directory with a form of one field. -/
def formWorld (title : String) : World where
  files := ⟨[(["form.json"], .file ("\x7b\"title\": \"" ++ title ++ "\", \"fields\": " ++
    "[\x7b\"name\": \"a\", \"type\": \"text\", \"label\": \"A\"\x7d]\x7d"))]⟩

/-- A run that plans and writes, taken apart. -/
theorem exists_written_formWorld {title : String} {ids : Identifiers}
    (h : (runIn (formWorld title) do
      let p ← plan { support := true } "form.json"
      p.files.forM writeFile
      return (p.compiled.identifiers,
        p.files.all (destination ·.path ≠ destination "form.json"))).1.toOption =
          some (ids, true)) :
    ∃ p planned written,
      runIn (formWorld title) (plan { support := true } "form.json") = (.ok p, planned) ∧
      runIn planned (p.files.forM writeFile) = (.ok (), written) ∧
      (∀ file ∈ p.files, destination file.path ≠ destination "form.json") ∧
      p.compiled.identifiers = ids := by
  have hok : ∀ {x : Except ProjectError (Identifiers × Bool)}, x.toOption = some (ids, true) →
      x = .ok (ids, true) := by
    intro x hx
    cases x with
    | error e => cases hx
    | ok b => rw [Option.some.inj hx]
  obtain ⟨p, planned, hplan, h⟩ := runIn_bind_eq_ok_iff.mp (Prod.ext (hok h) rfl)
  obtain ⟨u, written, hwrite, h⟩ := runIn_bind_eq_ok_iff.mp h
  obtain ⟨hids, hform⟩ := Prod.mk.inj (Except.ok.inj (Prod.mk.inj h).1)
  refine ⟨p, planned, written, hplan, hwrite, fun file hfile => ?_, hids⟩
  exact of_decide_eq_true (List.all_eq_true.mp hform file hfile)

/-- With a title that is far from any support file, a check finds nothing. -/
theorem check_contactUs_after_writing :
    ∃ p planned written,
      runIn (formWorld "Contact us") (plan { support := true } "form.json") = (.ok p, planned) ∧
      runIn planned (p.files.forM writeFile) = (.ok (), written) ∧
      (∀ file ∈ p.files, destination file.path ≠ destination "form.json") ∧
      runIn written (check { support := true } "form.json") = (.ok [], written) := by
  obtain ⟨p, planned, written, hplan, hwrite, hform, hids⟩ :=
    @exists_written_formWorld "Contact us" ⟨"ContactUs", "contactUs"⟩ (by decide +kernel)
  refine ⟨p, planned, written, hplan, hwrite, hform, ?_⟩
  rw [check_after_writing hplan hwrite hform, hids]
  rfl

/-- A form may be named like a support file, which is then written over its component. -/
theorem check_fieldWrapper_after_writing :
    ∃ p planned written,
      runIn (formWorld "Field Wrapper") (plan { support := true } "form.json") =
        (.ok p, planned) ∧
      runIn planned (p.files.forM writeFile) = (.ok (), written) ∧
      (∀ file ∈ p.files, destination file.path ≠ destination "form.json") ∧
      runIn written (check { support := true } "form.json") =
        (.ok [.changed "./generated/FieldWrapper.tsx"], written) := by
  obtain ⟨p, planned, written, hplan, hwrite, hform, hids⟩ :=
    @exists_written_formWorld "Field Wrapper" ⟨"FieldWrapper", "fieldWrapper"⟩ (by decide +kernel)
  refine ⟨p, planned, written, hplan, hwrite, hform, ?_⟩
  rw [runIn_check_of_written hplan hwrite hform, filterMap_driftAfter_of_plan hplan, hids]
  rfl

end WebForm.Project
