import WebForm.Files.System
import WebForm.Proofs.Outcome
/-!
# What operations on files keep

A path leads to the same location in every file system in which everything on the way is a
directory. Writing a file and making directories leave all directories as they are, and all files
but the one that is written; so a path that led somewhere before still leads there, and what was
read there is read again.
-/

set_option autoImplicit false

namespace WebForm.Files

open Outcome

/-! ## Where a path leads -/

/-- The location at the end of a path. -/
def destination (path : String) : Location := (parts path).foldl FileSystem.move []

theorem splitParts_append_cons (as bs : List Char) :
    splitParts (as ++ '/' :: bs) = splitParts as ++ splitParts bs := by
  induction as with
  | nil => rfl
  | cons c rest ih =>
    rw [List.cons_append, splitParts, splitParts]
    by_cases hslash : c = '/'
    · rw [if_pos hslash, if_pos hslash, ih, List.cons_append]
    · rw [if_neg hslash, if_neg hslash, ih]
      -- the character goes to the first part, and there is one
      obtain ⟨part, others, hrest⟩ := List.exists_cons_of_ne_nil (splitParts_ne_nil rest)
      rw [hrest, List.cons_append]
      rfl

theorem splitParts_of_not_mem {cs : List Char} (h : '/' ∉ cs) : splitParts cs = [cs] := by
  induction cs with
  | nil => rfl
  | cons c rest ih =>
    rw [List.mem_cons, not_or] at h
    rw [splitParts, if_neg (Ne.symm h.1), ih h.2]

/-- A text that names something in a directory, and not the directory or the one above it. -/
structure IsName (name : String) : Prop where
  noSlash : '/' ∉ name.toList
  ne_empty : name ≠ ""
  ne_point : name ≠ "."
  ne_points : name ≠ ".."

instance (name : String) : Decidable (IsName name) :=
  decidable_of_iff ('/' ∉ name.toList ∧ name ≠ "" ∧ name ≠ "." ∧ name ≠ "..")
    ⟨fun ⟨hslash, hempty, hpoint, hpoints⟩ => ⟨hslash, hempty, hpoint, hpoints⟩,
      fun h => ⟨h.noSlash, h.ne_empty, h.ne_point, h.ne_points⟩⟩

theorem IsName.parts {name : String} (h : IsName name) : parts name = [name] := by
  rw [Files.parts, splitParts_of_not_mem h.noSlash, List.map_singleton, String.ofList_toList]

theorem IsName.move {name : String} (h : IsName name) (here : Location) :
    FileSystem.move here name = here ++ [name] := by
  have hidle : (decide (name = "") || decide (name = ".")) = false := by
    rw [decide_eq_false h.ne_empty, decide_eq_false h.ne_point]
    rfl
  rw [FileSystem.move, hidle, if_neg Bool.false_ne_true, if_neg h.ne_points]

/-- A slash goes on from where the path before it leads. -/
theorem destination_append_slash (dir : String) {name : String} (h : IsName name) :
    destination (dir ++ "/" ++ name) = destination dir ++ [name] := by
  have hparts : parts (dir ++ "/" ++ name) = parts dir ++ [name] := by
    have hname : splitParts name.toList = [name.toList] := splitParts_of_not_mem h.noSlash
    have hslash : (dir ++ "/" ++ name).toList = dir.toList ++ '/' :: name.toList := by
      rw [String.toList_append, String.toList_append, List.append_assoc]
      rfl
    rw [parts, hslash, splitParts_append_cons, hname, List.map_append, List.map_singleton,
      String.ofList_toList, parts]
  rw [destination, hparts, List.foldl_append, List.foldl_cons, List.foldl_nil, h.move, destination]

/-- A slash at the end of a path does not lead anywhere. -/
theorem destination_slash (dir : String) : destination (dir ++ "/") = destination dir := by
  have hparts : parts (dir ++ "/") = parts dir ++ [""] := by
    rw [parts, String.toList_append, show "/".toList = '/' :: [] from rfl, splitParts_append_cons,
      List.map_append, parts]
    rfl
  rw [destination, hparts, List.foldl_append]
  rfl

/-- A file in a directory is found under its name where the directory is. -/
theorem destination_joinName (dir : String) {name : String} (h : IsName name) :
    destination (joinName dir name) = destination dir ++ [name] := by
  rw [joinName]
  by_cases hempty : dir = ""
  · rw [hempty, if_pos (by rfl), String.empty_append, destination, h.parts]
    exact h.move []
  · have hisEmpty : dir.isEmpty = false := by simpa using hempty
    rw [hisEmpty, Bool.false_or]
    by_cases hlast : dir.toList.getLast? = some '/'
    · rw [if_pos (by rwa [decide_eq_true_iff])]
      obtain ⟨before, hbefore⟩ := List.getLast?_eq_some_iff.mp hlast
      have hdir : dir = String.ofList before ++ "/" := by
        rw [← String.ofList_toList (s := dir), hbefore, String.ofList_append]
      rw [hdir, destination_append_slash _ h, destination_slash]
    · rw [if_neg (by rwa [decide_eq_true_iff])]
      exact destination_append_slash dir h

namespace FileSystem

@[simp] theorem at?_nil (fs : FileSystem) : fs.at? [] = some .directory := rfl

/-- Whatever the parts lead to, the files on the way have no say in it. -/
theorem eq_foldl_of_follow {fs : FileSystem} {ps : List String} {here l : Location}
    (h : fs.follow here ps = .ok l) : l = ps.foldl move here := by
  induction ps generalizing here with
  | nil => exact (Except.ok.inj h).symm
  | cons p rest ih =>
    rw [follow] at h
    split at h
    · cases h
    · cases h
    · exact ih h

theorem eq_destination_of_locate {fs : FileSystem} {path : String} {l : Location}
    (h : fs.locate path = .ok l) : l = destination path := by
  rw [locate] at h
  split at h
  · cases h
  · exact eq_foldl_of_follow h

theorem read_eq_ok_iff {fs : FileSystem} {path content : String} :
    fs.read path = .ok content ↔
      fs.locate path = .ok (destination path) ∧
        fs.at? (destination path) = some (.file content) := by
  rw [read, bind_eq_ok_iff]
  constructor
  · rintro ⟨l, hl, h⟩
    obtain rfl := eq_destination_of_locate hl
    refine ⟨hl, ?_⟩
    split at h
    · cases h
    · cases h
    · next hfile => rw [hfile, Except.ok.inj h]
  · rintro ⟨hl, hfile⟩
    refine ⟨destination path, hl, ?_⟩
    rw [hfile]

theorem pathExists_of_read {fs : FileSystem} {path content : String}
    (h : fs.read path = .ok content) : fs.pathExists path = true := by
  obtain ⟨hl, hfile⟩ := read_eq_ok_iff.mp h
  rw [pathExists, hl]
  dsimp only
  rw [hfile]
  rfl

/-! ## What is kept -/

/-- All directories are still there, and so are all files but those that were written. -/
structure Keeps (written : List Location) (before after : FileSystem) : Prop where
  directory : ∀ l, before.at? l = some .directory → after.at? l = some .directory
  file : ∀ l content, l ∉ written → before.at? l = some (.file content) →
    after.at? l = some (.file content)

namespace Keeps

variable {written written' : List Location} {fs fs' fs'' : FileSystem}

protected theorem refl (fs : FileSystem) : Keeps [] fs fs :=
  ⟨fun _ h => h, fun _ _ _ h => h⟩

protected theorem trans (h : Keeps written fs fs') (h' : Keeps written' fs' fs'') :
    Keeps (written ++ written') fs fs'' where
  directory l hl := h'.directory l (h.directory l hl)
  file l content hnot hl := by
    rw [List.mem_append, not_or] at hnot
    exact h'.file l content hnot.2 (h.file l content hnot.1 hl)

theorem follow (h : Keeps written fs fs') {ps : List String} {here l : Location}
    (hl : fs.follow here ps = .ok l) : fs'.follow here ps = .ok l := by
  induction ps generalizing here with
  | nil => exact hl
  | cons p rest ih =>
    rw [FileSystem.follow] at hl
    split at hl
    · cases hl
    · cases hl
    · next hdir =>
      rw [FileSystem.follow, h.directory here hdir]
      exact ih hl

theorem locate (h : Keeps written fs fs') {path : String} {l : Location}
    (hl : fs.locate path = .ok l) : fs'.locate path = .ok l := by
  rw [FileSystem.locate] at hl ⊢
  split at hl
  · cases hl
  · next hne =>
    rw [if_neg hne]
    exact h.follow hl

/-- A file that was not written is read as before. -/
theorem read (h : Keeps written fs fs') {path content : String}
    (hnot : destination path ∉ written) (hread : fs.read path = .ok content) :
    fs'.read path = .ok content := by
  obtain ⟨hl, hfile⟩ := read_eq_ok_iff.mp hread
  exact read_eq_ok_iff.mpr ⟨h.locate hl, h.file _ _ hnot hfile⟩

end Keeps

/-! ## Making directories -/

/-- A directory may be put where there was nothing. -/
theorem keeps_put_directory {fs : FileSystem} {l : Location} (h : fs.at? l = none) :
    Keeps [] fs (fs.put l .directory) := by
  have hother : ∀ {l' : Location} {node : Node}, fs.at? l' = some node →
      (fs.put l .directory).at? l' = some node := by
    intro l' node hl'
    have hne : l' ≠ l := by
      rintro rfl
      cases h.symm.trans hl'
    rw [at?_put_of_ne fs _ hne, hl']
  exact ⟨fun _ hl' => hother hl', fun _ _ _ hl' => hother hl'⟩

theorem keeps_makeFrom {fs fs' : FileSystem} {ps : List String} {here : Location}
    (h : fs.makeFrom here ps = .ok fs') : Keeps [] fs fs' := by
  induction ps generalizing fs here with
  | nil =>
    rw [makeFrom] at h
    split at h
    · cases h
    · obtain rfl := Except.ok.inj h
      exact .refl fs
  | cons p rest ih =>
    rw [makeFrom] at h
    split at h
    · cases h
    · cases h
    · dsimp only at h
      by_cases hnext : (fs.at? (move here p)).isSome = true
      · rw [if_pos hnext] at h
        exact ih h
      · rw [if_neg hnext] at h
        rw [Bool.not_eq_true, Option.isSome_eq_false_iff, Option.isNone_iff_eq_none] at hnext
        exact (keeps_put_directory hnext).trans (ih h)

theorem keeps_makeDirectories {fs fs' : FileSystem} {path : String}
    (h : fs.makeDirectories path = .ok fs') : Keeps [] fs fs' := by
  rw [makeDirectories] at h
  split at h
  · cases h
  · exact keeps_makeFrom h

/-! ## Writing -/

section
variable {fs fs' : FileSystem} {path content : String}

/-- A file is written where its path leads, and there is no directory. -/
theorem write_eq_ok (h : fs.write path content = .ok fs') :
    fs.locate path = .ok (destination path) ∧
      fs.at? (destination path) ≠ some .directory ∧
      fs' = fs.put (destination path) (.file content) := by
  rw [write, bind_eq_ok_iff] at h
  obtain ⟨l, hl, h⟩ := h
  obtain rfl := eq_destination_of_locate hl
  split at h
  · cases h
  · next hdir => exact ⟨hl, hdir, (Except.ok.inj h).symm⟩

theorem keeps_write (h : fs.write path content = .ok fs') :
    Keeps [destination path] fs fs' := by
  obtain ⟨-, hdir, rfl⟩ := write_eq_ok h
  constructor
  · intro l hl
    have hne : l ≠ destination path := by
      rintro rfl
      exact hdir hl
    rw [at?_put_of_ne fs _ hne, hl]
  · intro l content' hnot hl
    rw [at?_put_of_ne fs _ (List.ne_of_not_mem_cons hnot), hl]

/-- What was written is read. -/
theorem read_write (h : fs.write path content = .ok fs') : fs'.read path = .ok content := by
  have hkept : Keeps [destination path] fs fs' := keeps_write h
  obtain ⟨hl, hdir, rfl⟩ := write_eq_ok h
  have hne : destination path ≠ [] := by
    intro hnil
    rw [hnil] at hdir
    exact hdir (at?_nil fs)
  exact read_eq_ok_iff.mpr ⟨hkept.locate hl, at?_put_self fs _ hne⟩

end

end FileSystem

end WebForm.Files
