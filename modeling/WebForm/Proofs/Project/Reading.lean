import Mathlib.Data.List.Forall2
import WebForm.Proofs.Project.Writing
/-!
# Steps that only read

Most of what a command does is reading. `OnlyReads` says of a step that it leaves all files as they
are and that its answer depends on nothing else, so that `answerIn` may speak of its answer without
saying what was printed before. `FailsPlainly` says that a step which fails has not done its work:
the exit code 2 is kept for answers, and no step below a command gives one.
-/

set_option autoImplicit false

namespace WebForm.Project

open Files Outcome

/-! ## Answers -/

/-- What a step answers where there are certain files. -/
def answerIn {α : Type} (fs : FileSystem) (x : ExceptT ProjectError InMemory α) :
    Except ProjectError α :=
  (runIn { files := fs } x).1

/-- A step that leaves all files as they are, and whose answer depends on them only. -/
structure OnlyReads {α : Type} (x : ExceptT ProjectError InMemory α) : Prop where
  files : ∀ w, (runIn w x).2.files = w.files
  answer : ∀ w, (runIn w x).1 = answerIn w.files x

/-- A step that fails with the exit code 1, if it fails. -/
def FailsPlainly {α : Type} (x : ExceptT ProjectError InMemory α) : Prop :=
  ∀ w e, (runIn w x).1 = .error e → e.exitCode = 1

section
variable {α β : Type} {x : ExceptT ProjectError InMemory α}
  {f : α → ExceptT ProjectError InMemory β}

namespace OnlyReads

/-- A step that prints something at most. -/
theorem of_runIn {g : FileSystem → Except ProjectError α}
    (h : ∀ w, ∃ printed, runIn w x = (g w.files, ⟨w.files, printed⟩)) : OnlyReads x where
  files w := by
    obtain ⟨printed, hw⟩ := h w
    rw [hw]
  answer w := by
    obtain ⟨printed, hw⟩ := h w
    obtain ⟨printed', hfresh⟩ := h { files := w.files }
    rw [answerIn, hw, hfresh]

protected theorem pure (a : α) : OnlyReads (pure a) := of_runIn (g := fun _ => .ok a) fun w =>
  ⟨w.printed, rfl⟩

protected theorem throw (e : ProjectError) :
    OnlyReads (throw e : ExceptT ProjectError InMemory α) :=
  of_runIn (g := fun _ => .error e) fun w => ⟨w.printed, rfl⟩

theorem say (line : String) :
    OnlyReads (Workspace.say line : ExceptT ProjectError InMemory Unit) :=
  of_runIn (g := fun _ => .ok ()) fun w => ⟨line :: w.printed, rfl⟩

theorem pathExists (path : String) :
    OnlyReads (Workspace.pathExists path : ExceptT ProjectError InMemory Bool) :=
  of_runIn (g := fun fs => .ok (fs.pathExists path)) fun w => ⟨w.printed, rfl⟩

theorem readText (path : String) :
    OnlyReads (Workspace.readText path :
      ExceptT ProjectError InMemory (Except FileError String)) :=
  of_runIn (g := fun fs => .ok (fs.read path)) fun w => ⟨w.printed, rfl⟩

theorem runIn_eq (hx : OnlyReads x) (w : World) :
    ∃ mid, mid.files = w.files ∧ runIn w x = (answerIn w.files x, mid) :=
  ⟨_, hx.files w, Prod.ext (hx.answer w) rfl⟩

/-- The second of two steps finds the files as the first one found them. -/
theorem runIn_bind_eq (hx : OnlyReads x) (hf : ∀ a, OnlyReads (f a)) (w : World) :
    ∃ last, last.files = w.files ∧ runIn w (x >>= f) =
      (do let a ← answerIn w.files x; answerIn w.files (f a), last) := by
  obtain ⟨mid, hmid, hrun⟩ := hx.runIn_eq w
  rw [runIn_bind, hrun]
  cases answerIn w.files x with
  | error e => exact ⟨mid, hmid, rfl⟩
  | ok a =>
    obtain ⟨last, hlast, hrest⟩ := (hf a).runIn_eq mid
    exact ⟨last, hlast.trans hmid, by rw [← hmid]; exact hrest⟩

protected theorem bind (hx : OnlyReads x) (hf : ∀ a, OnlyReads (f a)) : OnlyReads (x >>= f) where
  files w := by
    obtain ⟨last, hlast, hrun⟩ := hx.runIn_bind_eq hf w
    rw [hrun, hlast]
  answer w := by
    obtain ⟨last, -, hrun⟩ := hx.runIn_bind_eq hf w
    obtain ⟨last', -, hfresh⟩ := hx.runIn_bind_eq hf { files := w.files }
    rw [answerIn, hrun, hfresh]

end OnlyReads

@[simp] theorem answerIn_pure (fs : FileSystem) (a : α) : answerIn fs (pure a) = .ok a := rfl

@[simp] theorem answerIn_throw (fs : FileSystem) (e : ProjectError) :
    answerIn fs (throw e : ExceptT ProjectError InMemory α) = .error e := rfl

theorem answerIn_bind (hx : OnlyReads x) (hf : ∀ a, OnlyReads (f a)) (fs : FileSystem) :
    answerIn fs (x >>= f) = (do let a ← answerIn fs x; answerIn fs (f a)) := by
  obtain ⟨last, -, hrun⟩ := hx.runIn_bind_eq hf { files := fs }
  rw [answerIn, hrun]

theorem answerIn_bind_eq_ok_iff (hx : OnlyReads x) (hf : ∀ a, OnlyReads (f a)) {fs : FileSystem}
    {b : β} :
    answerIn fs (x >>= f) = .ok b ↔ ∃ a, answerIn fs x = .ok a ∧ answerIn fs (f a) = .ok b := by
  rw [answerIn_bind hx hf, bind_eq_ok_iff]

/-- A step that only reads, with its answer. -/
structure Answers (x : ExceptT ProjectError InMemory α) (g : FileSystem → Except ProjectError α) :
    Prop extends OnlyReads x where
  eq : ∀ fs, answerIn fs x = g fs

theorem OnlyReads.answers (hx : OnlyReads x) : Answers x (answerIn · x) := ⟨hx, fun _ => rfl⟩

namespace Answers

variable {g : FileSystem → Except ProjectError α} {h : α → FileSystem → Except ProjectError β}
  {y : ExceptT ProjectError InMemory β} {k k' : FileSystem → Except ProjectError β}

protected theorem bind (hx : Answers x g) (hf : ∀ a, Answers (f a) (h a)) :
    Answers (x >>= f) fun fs => do let a ← g fs; h a fs where
  toOnlyReads := hx.toOnlyReads.bind fun a => (hf a).toOnlyReads
  eq fs := by
    rw [answerIn_bind hx.toOnlyReads fun a => (hf a).toOnlyReads, hx.eq]
    exact congrArg (g fs >>= ·) (funext fun a => (hf a).eq fs)

protected theorem throw (e : ProjectError) :
    Answers (throw e : ExceptT ProjectError InMemory α) fun _ => .error e :=
  (OnlyReads.throw e).answers

theorem say (line : String) :
    Answers (Workspace.say line : ExceptT ProjectError InMemory Unit) fun _ => .ok () :=
  (OnlyReads.say line).answers

/-- What was printed before does not show in an answer. -/
theorem say_bind (line : String) (hy : Answers y k) :
    Answers (Workspace.say line >>= fun _ => y) k :=
  (say line).bind fun _ => hy

theorem sayEach (line : α → String) (as : List α) :
    Answers (as.forM fun a => (Workspace.say (line a) : ExceptT ProjectError InMemory PUnit))
      fun _ => .ok PUnit.unit := by
  induction as with
  | nil => exact (OnlyReads.pure PUnit.unit).answers
  | cons a rest ih => exact ih.say_bind (line a)

theorem sayEach_bind (line : α → String) (as : List α) (hy : Answers y k) :
    Answers ((as.forM fun a => (Workspace.say (line a) : ExceptT ProjectError InMemory PUnit)) >>=
      fun _ => y) k :=
  (sayEach line as).bind fun _ => hy

protected theorem ite {y' : ExceptT ProjectError InMemory β} (c : Prop) [Decidable c]
    (hy : Answers y k) (hy' : Answers y' k') :
    Answers (if c then y else y') fun fs => if c then k fs else k' fs := by
  by_cases hc : c
  · simpa only [if_pos hc] using hy
  · simpa only [if_neg hc] using hy'

end Answers

namespace FailsPlainly

theorem of_ok (h : ∀ w, ∃ a, (runIn w x).1 = .ok a) : FailsPlainly x := by
  intro w e he
  obtain ⟨a, ha⟩ := h w
  cases ha.symm.trans he

protected theorem pure (a : α) : FailsPlainly (pure a) := of_ok fun _ => ⟨a, rfl⟩

protected theorem throw {e : ProjectError} (h : e.exitCode = 1) :
    FailsPlainly (throw e : ExceptT ProjectError InMemory α) := by
  rintro w e' he
  obtain rfl : e = e' := Except.error.inj he
  exact h

/-- An action of the world does not fail, even if what it gives back is an error. -/
theorem lift (action : InMemory α) : FailsPlainly (ExceptT.lift action) :=
  of_ok fun w => ⟨(action.run w).1, rfl⟩

protected theorem bind (hx : FailsPlainly x) (hf : ∀ a, FailsPlainly (f a)) :
    FailsPlainly (x >>= f) := by
  intro w e he
  rw [runIn_bind] at he
  split at he
  · next a mid hmid => exact hf a mid e he
  · next e' mid hmid =>
    obtain rfl : e' = e := Except.error.inj he
    exact hx w e' (congrArg Prod.fst hmid)

theorem forM {step : α → ExceptT ProjectError InMemory PUnit}
    (hstep : ∀ a, FailsPlainly (step a)) (as : List α) : FailsPlainly (as.forM step) := by
  induction as with
  | nil => exact .pure PUnit.unit
  | cons a rest ih => exact (hstep a).bind fun _ => ih

end FailsPlainly

end

/-- A step that only reads, and fails plainly if it fails. -/
structure Queries {α : Type} (x : ExceptT ProjectError InMemory α) : Prop extends OnlyReads x where
  plain : FailsPlainly x

namespace Queries

variable {α β : Type} {x : ExceptT ProjectError InMemory α}
  {f : α → ExceptT ProjectError InMemory β}

theorem exitCode_eq (hx : Queries x) {fs : FileSystem} {e : ProjectError}
    (h : answerIn fs x = .error e) : e.exitCode = 1 := hx.plain { files := fs } e h

protected theorem pure (a : α) : Queries (pure a) := ⟨.pure a, .pure a⟩

protected theorem throw {e : ProjectError} (h : e.exitCode = 1) :
    Queries (throw e : ExceptT ProjectError InMemory α) := ⟨.throw e, .throw h⟩

theorem pathExists (path : String) :
    Queries (Workspace.pathExists path : ExceptT ProjectError InMemory Bool) :=
  ⟨.pathExists path, .lift _⟩

theorem readText (path : String) :
    Queries (Workspace.readText path :
      ExceptT ProjectError InMemory (Except FileError String)) :=
  ⟨.readText path, .lift _⟩

protected theorem bind (hx : Queries x) (hf : ∀ a, Queries (f a)) : Queries (x >>= f) :=
  ⟨hx.toOnlyReads.bind fun a => (hf a).toOnlyReads, hx.plain.bind fun a => (hf a).plain⟩

theorem mapM (hf : ∀ a, Queries (f a)) (as : List α) : Queries (as.mapM f) := by
  induction as with
  | nil => exact .pure []
  | cons a rest ih =>
    rw [List.mapM_cons]
    exact (hf a).bind fun b => ih.bind fun bs => .pure (b :: bs)

end Queries

/-! ## Reading files -/

theorem queries_readFile (path : String) : Queries (readFile path) := by
  refine (Queries.readText path).bind fun content => ?_
  split
  · exact .pure _
  · exact .throw rfl

theorem queries_loadSettings (path? : Option String) : Queries (loadSettings path?) := by
  refine (Queries.pathExists _).bind fun there => ?_
  split
  · refine (Queries.readText _).bind fun content => ?_
    split
    · exact .throw rfl
    · split
      · exact .pure _
      · exact .throw rfl
  · exact .pure _

theorem queries_loadForm (strictness : Strictness) (path : String) :
    Queries (loadForm strictness path) := by
  refine (queries_readFile path).bind fun content => ?_
  split
  · exact .pure _
  · exact .throw rfl

theorem queries_loadData (path : String) : Queries (loadData path) := by
  refine (queries_readFile path).bind fun content => ?_
  split
  · exact .pure _
  · exact .throw rfl

theorem queries_compileFile (settings : Settings) (path : String) :
    Queries (compileFile settings path) := by
  refine (queries_loadForm settings.strictness path).bind fun form => ?_
  split
  · exact .pure _
  · exact .throw rfl

theorem queries_plan (settings : Settings) (path : String) : Queries (plan settings path) :=
  (queries_compileFile settings path).bind fun _ => .pure _

theorem queries_validate (settings : Settings) (formPath dataPath : String) :
    Queries (validate settings formPath dataPath) :=
  (queries_compileFile settings formPath).bind fun _ =>
    (queries_loadData dataPath).bind fun _ => .pure _

/-! ## Writing files -/

theorem failsPlainly_writeFile (file : OutputFile) :
    FailsPlainly (writeFile file : ExceptT ProjectError InMemory Unit) := by
  have hprepare : FailsPlainly (prepareDirectory file.path :
      ExceptT ProjectError InMemory Unit) := by
    rw [prepareDirectory]
    split
    · exact .pure _
    · refine (FailsPlainly.lift _).bind fun there => ?_
      split
      · exact .pure _
      · refine (FailsPlainly.lift _).bind fun made => ?_
        split
        · exact .pure _
        · exact .throw rfl
  refine hprepare.bind fun _ => (FailsPlainly.lift _).bind fun written => ?_
  split
  · exact .pure _
  · exact .throw rfl

/-! ## Comparing files -/

/-- A file is there with the content that it should have. -/
def UpToDate (fs : FileSystem) (file : OutputFile) : Prop :=
  fs.read file.path = .ok file.content

/-- A file is not there, or it can be read. -/
def Comparable (fs : FileSystem) (file : OutputFile) : Prop :=
  fs.pathExists file.path = true → ∃ content, fs.read file.path = .ok content

theorem UpToDate.comparable {fs : FileSystem} {file : OutputFile} (h : UpToDate fs file) :
    Comparable fs file := fun _ => ⟨file.content, h⟩

theorem queries_driftOf (file : OutputFile) : Queries (driftOf file) := by
  refine (Queries.pathExists _).bind fun there => ?_
  split
  · exact (queries_readFile file.path).bind fun _ => .pure _
  · exact .pure _

theorem queries_check (settings : Settings) (path : String) : Queries (check settings path) :=
  (queries_plan settings path).bind fun p =>
    (Queries.mapM queries_driftOf p.files).bind fun _ => .pure _

theorem answerIn_driftOf (fs : FileSystem) (file : OutputFile) :
    answerIn fs (driftOf file) =
      if fs.pathExists file.path then
        ((fs.read file.path).mapError (.read file.path)).map fun content =>
          if content = file.content then none else some (.changed file.path)
      else .ok (some (.missing file.path)) := by
  have hthere : runIn { files := fs } (Workspace.pathExists file.path) =
      (.ok (fs.pathExists file.path), { files := fs }) := rfl
  rw [answerIn, driftOf, runIn_bind_of_ok hthere]
  by_cases hpath : fs.pathExists file.path = true
  · rw [if_pos hpath, if_pos hpath, runIn_bind, runIn_readFile]
    cases fs.read file.path <;> rfl
  · rw [if_neg hpath, if_neg hpath]
    rfl

/-- A file can be compared exactly if comparing it gives an answer. -/
theorem exists_answerIn_driftOf_iff {fs : FileSystem} {file : OutputFile} :
    (∃ drift, answerIn fs (driftOf file) = .ok drift) ↔ Comparable fs file := by
  rw [answerIn_driftOf, Comparable]
  by_cases hpath : fs.pathExists file.path = true
  · rw [if_pos hpath]
    cases fs.read file.path with
    | error e => simp [hpath]
    | ok content => simp
  · simp [hpath]

/-- Comparing a file finds nothing exactly if the file is up to date. -/
theorem answerIn_driftOf_eq_none_iff {fs : FileSystem} {file : OutputFile} :
    answerIn fs (driftOf file) = .ok none ↔ UpToDate fs file := by
  rw [answerIn_driftOf, UpToDate]
  by_cases hpath : fs.pathExists file.path = true
  · rw [if_pos hpath]
    cases fs.read file.path with
    | error e => simp
    | ok content => simp
  · rw [if_neg hpath]
    constructor
    · intro h
      cases h
    · intro h
      exact absurd (FileSystem.pathExists_of_read h) hpath

theorem answerIn_mapM_eq_ok_iff {α β : Type} {f : α → ExceptT ProjectError InMemory β}
    (hf : ∀ a, Queries (f a)) {fs : FileSystem} {as : List α} {bs : List β} :
    answerIn fs (as.mapM f) = .ok bs ↔
      List.Forall₂ (fun a b => answerIn fs (f a) = .ok b) as bs := by
  induction as generalizing bs with
  | nil => simp [eq_comm]
  | cons a rest ih =>
    have hrest (b : β) : Queries (rest.mapM f >>= fun bs => pure (b :: bs)) :=
      (Queries.mapM hf rest).bind fun bs => .pure (b :: bs)
    rw [List.mapM_cons, List.forall₂_cons_left_iff,
      answerIn_bind_eq_ok_iff (hf a).toOnlyReads fun b => (hrest b).toOnlyReads]
    refine exists_congr fun b => ?_
    rw [answerIn_bind_eq_ok_iff (Queries.mapM hf rest).toOnlyReads fun bs => .pure (b :: bs)]
    constructor
    · rintro ⟨hb, bs', hbs', hcons⟩
      exact ⟨bs', hb, ih.mp hbs', (Except.ok.inj hcons).symm⟩
    · rintro ⟨bs', hb, hbs', rfl⟩
      exact ⟨hb, bs', ih.mpr hbs', rfl⟩

/-- All files can be compared exactly if comparing all of them gives answers. -/
theorem exists_answerIn_mapM_driftOf_iff {fs : FileSystem} {files : List OutputFile} :
    (∃ found, answerIn fs (files.mapM driftOf) = .ok found) ↔
      ∀ file ∈ files, Comparable fs file := by
  simp only [answerIn_mapM_eq_ok_iff queries_driftOf]
  induction files with
  | nil => simp
  | cons file rest ih =>
    rw [List.forall_mem_cons, ← ih, ← exists_answerIn_driftOf_iff]
    constructor
    · rintro ⟨found, h⟩
      obtain ⟨drift, found', hdrift, hfound, rfl⟩ := List.forall₂_cons_left_iff.mp h
      exact ⟨⟨drift, hdrift⟩, found', hfound⟩
    · rintro ⟨⟨drift, hdrift⟩, found, hfound⟩
      exact ⟨drift :: found, .cons hdrift hfound⟩

/-- What was found is nothing exactly if all files are up to date. -/
theorem filterMap_eq_nil_iff_upToDate {fs : FileSystem} {files : List OutputFile}
    {found : List (Option Drift)} (h : answerIn fs (files.mapM driftOf) = .ok found) :
    found.filterMap id = [] ↔ ∀ file ∈ files, UpToDate fs file := by
  induction (answerIn_mapM_eq_ok_iff queries_driftOf).mp h with
  | nil => simp
  | @cons file drift rest found hdrift hfound ih =>
    have htail := ih ((answerIn_mapM_eq_ok_iff queries_driftOf).mpr hfound)
    rw [List.forall_mem_cons, ← htail, ← answerIn_driftOf_eq_none_iff, hdrift]
    cases drift <;> simp

/-- A check gives an answer if the form has a plan and all its files can be compared. -/
theorem answerIn_check_eq_ok_iff {fs : FileSystem} {settings : Settings} {path : String}
    {drifts : List Drift} :
    answerIn fs (check settings path) = .ok drifts ↔
      ∃ p, answerIn fs (plan settings path) = .ok p ∧
        ∃ found, answerIn fs (p.files.mapM driftOf) = .ok found ∧ found.filterMap id = drifts := by
  have hrest (p : Plan) : OnlyReads (p.files.mapM driftOf >>= fun found =>
      (pure (found.filterMap id) : ExceptT ProjectError InMemory (List Drift))) :=
    (Queries.mapM queries_driftOf p.files).toOnlyReads.bind fun _ => .pure _
  rw [check, answerIn_bind_eq_ok_iff (queries_plan settings path).toOnlyReads hrest]
  refine exists_congr fun p => and_congr_right fun _ => ?_
  rw [answerIn_bind_eq_ok_iff (Queries.mapM queries_driftOf p.files).toOnlyReads
    fun _ => .pure _]
  simp

/-- A check finds nothing exactly if all planned files are up to date. -/
theorem answerIn_check_eq_nil_iff {fs : FileSystem} {settings : Settings} {path : String} :
    answerIn fs (check settings path) = .ok [] ↔
      ∃ p, answerIn fs (plan settings path) = .ok p ∧ ∀ file ∈ p.files, UpToDate fs file := by
  rw [answerIn_check_eq_ok_iff]
  refine exists_congr fun p => and_congr_right fun _ => ?_
  constructor
  · rintro ⟨found, hfound, hnil⟩
    exact (filterMap_eq_nil_iff_upToDate hfound).mp hnil
  · intro h
    obtain ⟨found, hfound⟩ :=
      exists_answerIn_mapM_driftOf_iff.mpr fun file hfile => (h file hfile).comparable
    exact ⟨found, hfound, (filterMap_eq_nil_iff_upToDate hfound).mpr h⟩

/-- A check finds something exactly if all planned files can be compared and one of them is not up
to date. -/
theorem exists_answerIn_check_ne_nil_iff {fs : FileSystem} {settings : Settings}
    {path : String} :
    (∃ drifts, answerIn fs (check settings path) = .ok drifts ∧ drifts ≠ []) ↔
      ∃ p, answerIn fs (plan settings path) = .ok p ∧ (∀ file ∈ p.files, Comparable fs file) ∧
        ∃ file ∈ p.files, ¬ UpToDate fs file := by
  constructor
  · rintro ⟨drifts, hdrifts, hne⟩
    obtain ⟨p, hp, found, hfound, rfl⟩ := answerIn_check_eq_ok_iff.mp hdrifts
    rw [Ne, filterMap_eq_nil_iff_upToDate hfound] at hne
    push Not at hne
    exact ⟨p, hp, exists_answerIn_mapM_driftOf_iff.mp ⟨found, hfound⟩, hne⟩
  · rintro ⟨p, hp, hcomparable, file, hfile, hstale⟩
    obtain ⟨found, hfound⟩ := exists_answerIn_mapM_driftOf_iff.mpr hcomparable
    refine ⟨_, answerIn_check_eq_ok_iff.mpr ⟨p, hp, found, hfound, rfl⟩, fun hnil => ?_⟩
    exact hstale ((filterMap_eq_nil_iff_upToDate hfound).mp hnil file hfile)

end WebForm.Project
