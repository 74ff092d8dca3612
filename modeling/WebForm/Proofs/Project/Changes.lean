import WebForm.Proofs.Project.Writing
/-!
# What writing files changes

`ChangesOnly` says what may be different after some files were written: what their own paths lead
to, and the directories on the way to them that were missing. It holds of each operation by itself
and goes through a sequence of operations, because what one of them finds as it was is still as it
was before the first. So it holds of a run that writes files, whether the run succeeds or not.
-/

set_option autoImplicit false

namespace WebForm

open Files Outcome

/-! ## Differences between two file systems -/

/-- A location that one comes through on the way along a path, its end included. -/
def Files.IsOnWay (path : String) (l : Location) : Prop :=
  ∃ ps, ps <+: parts path ∧ l = ps.foldl FileSystem.move []

/-- A directory stands where there was nothing. -/
structure Files.MakesDirectory (before after : FileSystem) (l : Location) : Prop where
  missing : before.at? l = none
  made : after.at? l = some .directory

/-- A file stands where there was no directory. -/
structure Files.WritesFile (before after : FileSystem) (l : Location) (content : String) :
    Prop where
  free : before.at? l ≠ some .directory
  written : after.at? l = some (.file content)

namespace Project

/-- What is different is one of some files, or a missing directory on the way to one of them. -/
def ChangesOnly (files : List OutputFile) (before after : FileSystem) : Prop :=
  ∀ l, after.at? l ≠ before.at? l →
    (∃ file ∈ files, l = destination file.path ∧ WritesFile before after l file.content) ∨
      ∃ file ∈ files, IsOnWay (parent file.path) l ∧ MakesDirectory before after l

namespace ChangesOnly

variable {files files' : List OutputFile} {fs fs' fs'' : FileSystem}

protected theorem refl (files : List OutputFile) (fs : FileSystem) : ChangesOnly files fs fs :=
  fun _ h => absurd rfl h

theorem mono (h : ChangesOnly files fs fs') (hsub : files ⊆ files') :
    ChangesOnly files' fs fs' := by
  intro l hl
  rcases h l hl with ⟨file, hfile, hwritten⟩ | ⟨file, hfile, hmade⟩
  · exact .inl ⟨file, hsub hfile, hwritten⟩
  · exact .inr ⟨file, hsub hfile, hmade⟩

/-- Where there was a directory it is still there. -/
theorem at?_eq_directory (h : ChangesOnly files fs fs') {l : Location}
    (hl : fs.at? l = some .directory) : fs'.at? l = some .directory := by
  refine Classical.byContradiction fun hchanged => ?_
  rcases h l (hl ▸ hchanged) with ⟨file, -, -, hwritten⟩ | ⟨file, -, -, hmade⟩
  · exact hwritten.free hl
  · cases hl.symm.trans hmade.missing

/-- Where there is nothing there was nothing. -/
theorem at?_eq_none (h : ChangesOnly files fs fs') {l : Location} (hl : fs'.at? l = none) :
    fs.at? l = none := by
  refine Classical.byContradiction fun hthere => ?_
  have hchanged : fs'.at? l ≠ fs.at? l := by
    rw [hl]
    exact Ne.symm hthere
  rcases h l hchanged with ⟨file, -, -, hwritten⟩ | ⟨file, -, -, hmade⟩
  · cases hl.symm.trans hwritten.written
  · cases hl.symm.trans hmade.made

protected theorem trans (h : ChangesOnly files fs fs') (h' : ChangesOnly files fs' fs'') :
    ChangesOnly files fs fs'' := by
  intro l hl
  by_cases hlast : fs''.at? l = fs'.at? l
  -- the second change left the location alone
  · rw [hlast] at hl
    rcases h l hl with ⟨file, hfile, hpath, hwritten⟩ | ⟨file, hfile, hway, hmade⟩
    · exact .inl ⟨file, hfile, hpath, hwritten.free, hlast.trans hwritten.written⟩
    · exact .inr ⟨file, hfile, hway, hmade.missing, hlast.trans hmade.made⟩
  · rcases h' l hlast with ⟨file, hfile, hpath, hwritten⟩ | ⟨file, hfile, hway, hmade⟩
    · refine .inl ⟨file, hfile, hpath, ?_, hwritten.written⟩
      exact fun hdir => hwritten.free (h.at?_eq_directory hdir)
    · exact .inr ⟨file, hfile, hway, h.at?_eq_none hmade.missing, hmade.made⟩

end ChangesOnly

/-! ## Operations on files -/

/-- Parts lead through missing directories, which are made, and through directories that stay. -/
theorem exists_prefix_of_makeFrom {fs fs' : FileSystem} {ps : List String} {here : Location}
    (h : fs.makeFrom here ps = .ok fs') {l : Location} (hl : fs'.at? l ≠ fs.at? l) :
    (∃ qs, qs <+: ps ∧ l = qs.foldl FileSystem.move here) ∧ MakesDirectory fs fs' l := by
  induction ps generalizing fs here with
  | nil =>
    rw [FileSystem.makeFrom] at h
    split at h
    · cases h
    · obtain rfl := Except.ok.inj h
      exact absurd rfl hl
  | cons p rest ih =>
    rw [FileSystem.makeFrom] at h
    split at h
    · cases h
    · cases h
    · dsimp only at h
      by_cases hnext : (fs.at? (FileSystem.move here p)).isSome = true
      · rw [if_pos hnext] at h
        obtain ⟨⟨qs, hqs, hway⟩, hmade⟩ := ih h hl
        exact ⟨⟨p :: qs, List.cons_prefix_cons.mpr ⟨rfl, hqs⟩, hway⟩, hmade⟩
      · rw [if_neg hnext] at h
        rw [Bool.not_eq_true, Option.isSome_eq_false_iff, Option.isNone_iff_eq_none] at hnext
        by_cases hself : l = FileSystem.move here p
        -- the directory that this part is missing
        · subst hself
          have hne : FileSystem.move here p ≠ [] := by
            intro hnil
            rw [hnil, FileSystem.at?_nil] at hnext
            cases hnext
          refine ⟨⟨[p], List.cons_prefix_cons.mpr ⟨rfl, List.nil_prefix⟩, rfl⟩, hnext, ?_⟩
          exact (FileSystem.keeps_makeFrom h).directory _ (FileSystem.at?_put_self fs _ hne)
        · have hother := FileSystem.at?_put_of_ne fs .directory hself
          obtain ⟨⟨qs, hqs, hway⟩, hmade⟩ := ih h (hother.symm ▸ hl)
          refine ⟨⟨p :: qs, List.cons_prefix_cons.mpr ⟨rfl, hqs⟩, hway⟩, ?_, hmade.made⟩
          rw [← hother, hmade.missing]

theorem changesOnly_makeDirectories {fs fs' : FileSystem} {file : OutputFile}
    (h : fs.makeDirectories (parent file.path) = .ok fs') : ChangesOnly [file] fs fs' := by
  intro l hl
  rw [FileSystem.makeDirectories] at h
  split at h
  · cases h
  · obtain ⟨hway, hmade⟩ := exists_prefix_of_makeFrom h hl
    exact .inr ⟨_, List.mem_singleton_self _, hway, hmade⟩

theorem changesOnly_write {fs fs' : FileSystem} {file : OutputFile}
    (h : fs.write file.path file.content = .ok fs') : ChangesOnly [file] fs fs' := by
  intro l hl
  obtain ⟨-, hdir, rfl⟩ := FileSystem.write_eq_ok h
  by_cases hself : l = destination file.path
  · subst hself
    have hne : destination file.path ≠ [] := by
      intro hnil
      rw [hnil] at hdir
      exact hdir (FileSystem.at?_nil fs)
    exact .inl ⟨_, List.mem_singleton_self _, rfl, hdir, FileSystem.at?_put_self fs _ hne⟩
  · exact absurd (FileSystem.at?_put_of_ne fs _ hself) hl

/-! ## Steps -/

/-- A step that changes nothing but some files and the missing directories on the way to them,
whatever it comes to. -/
def Touches {α : Type} (files : List OutputFile) (x : ExceptT ProjectError InMemory α) : Prop :=
  ∀ w, ChangesOnly files w.files (runIn w x).2.files

namespace Touches

variable {α β : Type} {files files' : List OutputFile} {x : ExceptT ProjectError InMemory α}

/-- A step that leaves the files as they are. -/
theorem of_files_eq (h : ∀ w, (runIn w x).2.files = w.files) : Touches files x := by
  intro w
  rw [h]
  exact .refl files w.files

theorem mono (h : Touches files x) (hsub : files ⊆ files') : Touches files' x :=
  fun w => (h w).mono hsub

protected theorem bind {f : α → ExceptT ProjectError InMemory β} (hx : Touches files x)
    (hf : ∀ a, Touches files (f a)) : Touches files (x >>= f) := by
  intro w
  have hfirst := hx w
  rw [runIn_bind]
  split
  · next a mid hmid =>
    rw [hmid] at hfirst
    exact hfirst.trans (hf a mid)
  · next e mid hmid =>
    rw [hmid] at hfirst
    exact hfirst

/-- A change of the files that fails leaves them as they are. -/
theorem change {f : FileSystem → Except FileError FileSystem}
    (h : ∀ fs fs', f fs = .ok fs' → ChangesOnly files fs fs') :
    Touches files (ExceptT.lift (World.change f) :
      ExceptT ProjectError InMemory (Except FileError Unit)) := by
  intro w
  have hrun : (runIn w (ExceptT.lift (World.change f) :
      ExceptT ProjectError InMemory (Except FileError Unit))).2 = (World.change f w).2 := rfl
  rw [hrun, World.change]
  cases hfiles : f w.files with
  | ok fs' => exact h w.files fs' hfiles
  | error e => exact .refl files w.files

/-- Steps that touch one file each touch these files one after the other. -/
theorem forM {step : OutputFile → ExceptT ProjectError InMemory PUnit}
    (hstep : ∀ file, Touches [file] (step file)) (files : List OutputFile) :
    Touches files (files.forM step) := by
  induction files with
  | nil => exact .of_files_eq fun _ => rfl
  | cons file rest ih =>
    have hfirst : Touches (file :: rest) (step file) := (hstep file).mono (by simp)
    exact hfirst.bind fun _ => ih.mono (List.subset_cons_self file rest)

end Touches

theorem touches_prepareDirectory (file : OutputFile) :
    Touches [file] (prepareDirectory file.path) := by
  rw [prepareDirectory]
  split
  · exact .of_files_eq fun _ => rfl
  · refine .bind (.of_files_eq fun _ => rfl) fun there => ?_
    split
    · exact .of_files_eq fun _ => rfl
    · refine .bind (.change fun fs fs' h => changesOnly_makeDirectories h) fun made => ?_
      cases made <;> exact .of_files_eq fun _ => rfl

/-- Writing a file changes that file, and makes the directories it is missing. -/
theorem touches_writeFile (file : OutputFile) : Touches [file] (writeFile file) := by
  rw [writeFile]
  refine (touches_prepareDirectory file).bind fun _ => ?_
  refine .bind (.change fun fs fs' h => changesOnly_write h) fun written => ?_
  cases written <;> exact .of_files_eq fun _ => rfl

end Project

end WebForm
