import WebForm.Project
import WebForm.Proofs.Files.System
/-!
# Writing files and comparing them

Planning, writing and comparing as steps in a world. Files are written one after the other, and
each location holds what was written to it last; so a file that is compared with its location
right after all were written differs only if a later one went to the same place.
-/

set_option autoImplicit false

namespace WebForm.Project

open Files Outcome

/-! ## Steps in a world -/

/-- What a step comes to in a world, and the world that it leaves. -/
def runIn {α : Type} (w : World) (x : ExceptT ProjectError InMemory α) :
    Except ProjectError α × World :=
  x.run.run w

section
variable {α β : Type} {w w' : World}

@[simp] theorem runIn_pure (w : World) (a : α) : runIn w (pure a) = (.ok a, w) := rfl

/-- The second of two steps is taken in the world that the first one leaves, if it succeeds. -/
theorem runIn_bind (w : World) (x : ExceptT ProjectError InMemory α)
    (f : α → ExceptT ProjectError InMemory β) :
    runIn w (x >>= f) =
      match runIn w x with
      | (.ok a, mid) => runIn mid (f a)
      | (.error e, mid) => (.error e, mid) := by
  simp only [runIn, ExceptT.run_bind, StateT.run_bind]
  rcases x.run.run w with ⟨_ | a, mid⟩ <;> rfl

theorem runIn_bind_of_ok {x : ExceptT ProjectError InMemory α} {a : α}
    (h : runIn w x = (.ok a, w')) (f : α → ExceptT ProjectError InMemory β) :
    runIn w (x >>= f) = runIn w' (f a) := by
  rw [runIn_bind, h]

theorem runIn_bind_eq_ok_iff {x : ExceptT ProjectError InMemory α}
    {f : α → ExceptT ProjectError InMemory β} {b : β} :
    runIn w (x >>= f) = (.ok b, w') ↔
      ∃ a mid, runIn w x = (.ok a, mid) ∧ runIn mid (f a) = (.ok b, w') := by
  constructor
  · intro h
    rw [runIn_bind] at h
    split at h
    · next a mid hx => exact ⟨a, mid, hx, h⟩
    · cases h
  · rintro ⟨a, mid, hx, hf⟩
    rw [runIn_bind_of_ok hx, hf]

end

/-! ## Planning -/

theorem runIn_readFile (w : World) (path : String) :
    runIn w (readFile path) = ((w.files.read path).mapError (.read path), w) := by
  have hread : runIn w (Workspace.readText path) = (.ok (w.files.read path), w) := rfl
  rw [readFile, runIn_bind_of_ok hread]
  cases w.files.read path <;> rfl

/-- The plan for a file, from what reading it gave. -/
def planOf (settings : Settings) (path : String) (text : Except FileError String) :
    Except ProjectError Plan := do
  let content ← text.mapError (.read path)
  let form ← (Form.loadText settings.strictness content).mapError fun e => .form (.load e)
  let compiled ← (form.compile settings.style).mapError .form
  return ⟨compiled, outputFiles settings compiled⟩

/-- Planning reads one file and changes nothing. -/
theorem runIn_plan (settings : Settings) (path : String) (w : World) :
    runIn w (plan settings path) = (planOf settings path (w.files.read path), w) := by
  rw [plan, compileFile, loadForm, planOf]
  simp only [runIn_bind, runIn_readFile]
  cases w.files.read path with
  | error e => rfl
  | ok content =>
    simp only [mapError_ok, bind_ok]
    cases Form.loadText settings.strictness content with
    | error e => rfl
    | ok form =>
      simp only [mapError_ok, bind_ok, runIn_pure]
      cases form.compile settings.style <;> rfl

/-! ## Writing -/

section
variable {w w' : World}

/-- A change of the files that succeeds leaves a world with the changed files. -/
theorem files_of_change {f : FileSystem → Except FileError FileSystem}
    {x : ExceptT ProjectError InMemory (Except FileError Unit)}
    (hx : x = ExceptT.lift (World.change f)) (h : runIn w x = (.ok (.ok ()), w')) :
    f w.files = .ok w'.files := by
  have hrun : runIn w x = (.ok (World.change f w).1, (World.change f w).2) := by
    rw [hx]
    rfl
  rw [hrun, World.change] at h
  cases hfiles : f w.files with
  | ok files =>
    rw [hfiles] at h
    obtain rfl := (Prod.mk.inj h).2
    rfl
  | error e =>
    rw [hfiles] at h
    cases h

/-- Preparing a directory takes nothing away. -/
theorem keeps_prepareDirectory {path : String}
    (h : runIn w (prepareDirectory path) = (.ok (), w')) :
    FileSystem.Keeps [] w.files w'.files := by
  rw [prepareDirectory] at h
  split at h
  · obtain rfl := (Prod.mk.inj h).2
    exact .refl _
  · obtain ⟨there, mid, hthere, h⟩ := runIn_bind_eq_ok_iff.mp h
    obtain ⟨-, rfl⟩ := Prod.mk.inj hthere
    split at h
    · obtain rfl := (Prod.mk.inj h).2
      exact .refl _
    · obtain ⟨made, mid, hmade, h⟩ := runIn_bind_eq_ok_iff.mp h
      split at h
      · obtain rfl := (Prod.mk.inj h).2
        exact FileSystem.keeps_makeDirectories (files_of_change rfl hmade)
      · cases h

/-- A file that was written is read as it was written, and nothing else has changed. -/
theorem keeps_writeFile {file : OutputFile} (h : runIn w (writeFile file) = (.ok (), w')) :
    FileSystem.Keeps [destination file.path] w.files w'.files ∧
      w'.files.read file.path = .ok file.content := by
  rw [writeFile] at h
  obtain ⟨u, mid, hprepare, h⟩ := runIn_bind_eq_ok_iff.mp h
  obtain ⟨written, last, hwrite, h⟩ := runIn_bind_eq_ok_iff.mp h
  split at h
  · obtain rfl := (Prod.mk.inj h).2
    have hfiles : mid.files.write file.path file.content = .ok last.files :=
      files_of_change rfl hwrite
    have hprepared : FileSystem.Keeps [] w.files mid.files := keeps_prepareDirectory hprepare
    exact ⟨hprepared.trans (FileSystem.keeps_write hfiles), FileSystem.read_write hfiles⟩
  · cases h

theorem exists_runIn_of_forM_cons {file : OutputFile} {rest : List OutputFile}
    (h : runIn w ((file :: rest).forM writeFile) = (.ok (), w')) :
    ∃ mid, runIn w (writeFile file) = (.ok (), mid) ∧
      runIn mid (rest.forM writeFile) = (.ok (), w') := by
  obtain ⟨u, mid, hfile, hrest⟩ := runIn_bind_eq_ok_iff.mp h
  exact ⟨mid, hfile, hrest⟩

/-- Writing files one after the other keeps everything but what is at their paths. -/
theorem keeps_writeFiles {files : List OutputFile}
    (h : runIn w (files.forM writeFile) = (.ok (), w')) :
    FileSystem.Keeps (files.map (destination ·.path)) w.files w'.files := by
  induction files generalizing w with
  | nil =>
    obtain rfl := (Prod.mk.inj h).2
    exact .refl _
  | cons file rest ih =>
    obtain ⟨mid, hfile, hrest⟩ := exists_runIn_of_forM_cons h
    exact (keeps_writeFile hfile).1.trans (ih hrest)

/-- What a location holds after some files were written, where it held a content before. -/
def contentAfter (l : Location) (content : String) (files : List OutputFile) : String :=
  files.foldl (fun held file => if destination file.path = l then file.content else held) content

/-- What a location held before does not matter if one of the files goes there. -/
theorem contentAfter_congr {files : List OutputFile} {file : OutputFile} (hmem : file ∈ files)
    (content content' : String) :
    contentAfter (destination file.path) content files =
      contentAfter (destination file.path) content' files := by
  induction files generalizing content content' with
  | nil => cases hmem
  | cons first rest ih =>
    rw [contentAfter, contentAfter, List.foldl_cons, List.foldl_cons]
    rcases List.mem_cons.mp hmem with rfl | hrest
    · rw [if_pos rfl, if_pos rfl]
    · exact ih hrest _ _

theorem contentAfter_of_not_mem {files : List OutputFile} {l : Location}
    (h : l ∉ files.map (destination ·.path)) (content : String) :
    contentAfter l content files = content := by
  induction files with
  | nil => rfl
  | cons first rest ih =>
    rw [List.map_cons, List.mem_cons, not_or] at h
    rw [contentAfter, List.foldl_cons, if_neg (Ne.symm h.1)]
    exact ih h.2

/-- If no two of the files go to one location, then each is found as it was written. -/
theorem contentAfter_of_nodup {files : List OutputFile} {file : OutputFile} (hmem : file ∈ files)
    (hnodup : (files.map (destination ·.path)).Nodup) (content : String) :
    contentAfter (destination file.path) content files = file.content := by
  induction files generalizing content with
  | nil => cases hmem
  | cons first rest ih =>
    rw [List.map_cons, List.nodup_cons] at hnodup
    rw [contentAfter, List.foldl_cons]
    rcases List.mem_cons.mp hmem with rfl | hrest
    · rw [if_pos rfl]
      exact contentAfter_of_not_mem hnodup.1 _
    · exact ih hrest hnodup.2 _

/-- A file that is there is read as the last of the written files that went to its location. -/
theorem read_contentAfter {files : List OutputFile} {path content : String}
    (hread : w.files.read path = .ok content)
    (h : runIn w (files.forM writeFile) = (.ok (), w')) :
    w'.files.read path = .ok (contentAfter (destination path) content files) := by
  induction files generalizing w content with
  | nil =>
    obtain rfl := (Prod.mk.inj h).2
    exact hread
  | cons file rest ih =>
    obtain ⟨mid, hfile, hrest⟩ := exists_runIn_of_forM_cons h
    obtain ⟨hkept, hwritten⟩ := keeps_writeFile hfile
    rw [contentAfter, List.foldl_cons]
    by_cases hsame : destination file.path = destination path
    · rw [if_pos hsame]
      obtain ⟨hl, -⟩ := FileSystem.read_eq_ok_iff.mp hread
      obtain ⟨-, hcontent⟩ := FileSystem.read_eq_ok_iff.mp hwritten
      rw [hsame] at hcontent
      exact ih (FileSystem.read_eq_ok_iff.mpr ⟨hkept.locate hl, hcontent⟩) hrest
    · rw [if_neg hsame]
      have hnot : destination path ∉ [destination file.path] := by
        rw [List.mem_singleton]
        exact Ne.symm hsame
      exact ih (hkept.read hnot hread) hrest

/-- Each of the files that were written is read as the last one that went to its location. -/
theorem read_written {files : List OutputFile} {file : OutputFile} (hmem : file ∈ files)
    (h : runIn w (files.forM writeFile) = (.ok (), w')) :
    w'.files.read file.path =
      .ok (contentAfter (destination file.path) file.content files) := by
  induction files generalizing w with
  | nil => cases hmem
  | cons first rest ih =>
    obtain ⟨mid, hfirst, hrest⟩ := exists_runIn_of_forM_cons h
    rw [contentAfter, List.foldl_cons]
    rcases List.mem_cons.mp hmem with rfl | hlater
    · rw [if_pos rfl]
      exact read_contentAfter (keeps_writeFile hfirst).2 hrest
    · rw [ih hlater hrest, contentAfter_congr hlater]
      rfl

/-! ## Comparing -/

theorem runIn_driftOf {file : OutputFile} {content : String}
    (h : w.files.read file.path = .ok content) :
    runIn w (driftOf file) =
      (.ok (if content = file.content then none else some (.changed file.path)), w) := by
  have hthere : runIn w (Workspace.pathExists file.path) = (.ok true, w) := by
    rw [← FileSystem.pathExists_of_read h]
    rfl
  rw [driftOf, runIn_bind_of_ok hthere, if_pos rfl, runIn_bind, runIn_readFile, h]
  rfl

/-- How a file differs from what its path holds after some files were written. -/
def driftAfter (files : List OutputFile) (file : OutputFile) : Option Drift :=
  if contentAfter (destination file.path) file.content files = file.content then none
  else some (.changed file.path)

/-- Comparing files with what was written changes nothing, and all of them are there. -/
theorem runIn_mapM_driftOf {files written : List OutputFile}
    (h : ∀ file ∈ files, w.files.read file.path =
      .ok (contentAfter (destination file.path) file.content written)) :
    runIn w (files.mapM driftOf) = (.ok (files.map (driftAfter written)), w) := by
  induction files with
  | nil => rfl
  | cons file rest ih =>
    rw [List.forall_mem_cons] at h
    rw [List.mapM_cons, runIn_bind_of_ok (runIn_driftOf h.1), runIn_bind_of_ok (ih h.2),
      runIn_pure, List.map_cons, driftAfter]

/-- If only the first file can share its location, then only the first file can differ. -/
theorem filterMap_driftAfter_cons {first : OutputFile} {rest : List OutputFile}
    (hnodup : (rest.map (destination ·.path)).Nodup) :
    (first :: rest).filterMap (driftAfter (first :: rest)) =
      (driftAfter rest first).toList := by
  have hrest : rest.filterMap (driftAfter (first :: rest)) = [] := by
    rw [List.filterMap_eq_nil_iff]
    intro file hfile
    have hheld : contentAfter (destination file.path) file.content (first :: rest) =
        file.content := by
      rw [contentAfter, List.foldl_cons]
      exact contentAfter_of_nodup hfile hnodup _
    rw [driftAfter, if_pos hheld]
  have hfirst : driftAfter (first :: rest) first = driftAfter rest first := by
    rw [driftAfter, driftAfter, contentAfter, List.foldl_cons, if_pos rfl, contentAfter]
  cases hdrift : driftAfter rest first with
  | none => rw [List.filterMap_cons_none (hfirst.trans hdrift), hrest, Option.toList_none]
  | some d => rw [List.filterMap_cons_some (hfirst.trans hdrift), hrest, Option.toList_some]

end

end WebForm.Project
