import WebForm.Proofs.CommandLine.Answers
import WebForm.Proofs.Project.Changes
/-!
# What commands change

A command writes only after everything that can fail without a disk has been done: a form is
generated after it was planned, and a project is set up after nothing was found in its place.
`Effects` collects what can be said of the run of any command, about the files that it changes and
about its exit code, and `runArguments_effects` says it of the whole program, for all arguments and
all files.
-/

set_option autoImplicit false

open WebForm.Outcome

namespace WebForm.CommandLine

open Files Project

/-! ## Generating -/

/-- The plan of a command, which says what it is about before it plans. -/
def announced (form : FormOptions) (output : Option String) (withSupport : Bool) :
    ExceptT ProjectError InMemory Plan := do
  let settings ← commandSettings form output withSupport
  Workspace.say ("Compiling " ++ form.config)
  plan settings form.config

/-- What is done with a plan. -/
def carryOut (dryRun : Bool) (p : Plan) : ExceptT ProjectError InMemory Unit := do
  p.compiled.schema.warnings.forM fun w =>
    Workspace.say ("Warning: " ++ w.field ++ ": " ++ w.message)
  p.files.forM (deliver dryRun)

theorem runGenerate_eq (form : FormOptions) (output : Option String) (dryRun withSupport : Bool) :
    runGenerate form output dryRun withSupport =
      announced form output withSupport >>= carryOut dryRun := by
  simp only [runGenerate, announced, bind_assoc]
  rfl

/-- Saying what is planned does not change the plan. -/
theorem answers_announced (form : FormOptions) (output : Option String) (withSupport : Bool) :
    Answers (announced form output withSupport) (answerIn · (planned form output withSupport)) := by
  have hplan (settings : Settings) := (queries_plan settings form.config).answers
  have hsettings := (queries_commandSettings form output withSupport).answers
  have hannounced : Answers (announced form output withSupport) _ :=
    hsettings.bind fun settings => (hplan settings).say_bind _
  have hplanned : Answers (planned form output withSupport) _ := hsettings.bind hplan
  exact ⟨hannounced.toOnlyReads, fun fs => (hannounced.eq fs).trans (hplanned.eq fs).symm⟩

theorem failsPlainly_deliver (dryRun : Bool) (file : OutputFile) :
    FailsPlainly (deliver dryRun file : ExceptT ProjectError InMemory Unit) := by
  cases dryRun with
  | true =>
    exact (FailsPlainly.lift _).bind fun _ => (FailsPlainly.lift _).bind fun _ =>
      (FailsPlainly.lift _).bind fun _ => .lift _
  | false => exact (failsPlainly_writeFile file).bind fun _ => .lift _

theorem failsPlainly_runGenerate (form : FormOptions) (output : Option String)
    (dryRun withSupport : Bool) :
    FailsPlainly (runGenerate form output dryRun withSupport :
      ExceptT ProjectError InMemory Unit) := by
  refine (queries_commandSettings form output withSupport).plain.bind fun settings => ?_
  refine (FailsPlainly.lift _).bind fun _ => ?_
  refine (queries_plan settings form.config).plain.bind fun p => ?_
  exact (FailsPlainly.forM (fun _ => .lift _) p.compiled.schema.warnings).bind fun _ =>
    .forM (failsPlainly_deliver dryRun) p.files

theorem touches_deliver (file : OutputFile) :
    Touches [file] (deliver false file : ExceptT ProjectError InMemory Unit) :=
  (touches_writeFile file).bind fun _ => .of_files_eq (OnlyReads.say _).files

theorem touches_carryOut (p : Plan) : Touches p.files (carryOut false p) :=
  (Touches.of_files_eq (Answers.sayEach _ _).files).bind fun _ =>
    .forM touches_deliver p.files

/-- A plan that cannot be made keeps all files as they are. -/
theorem runIn_runGenerate_of_unplanned {w : World} {form : FormOptions} {output : Option String}
    {withSupport : Bool} {e : ProjectError}
    (h : answerIn w.files (planned form output withSupport) = .error e) (dryRun : Bool) :
    (runIn w (runGenerate form output dryRun withSupport)).1 = .error e ∧
      (runIn w (runGenerate form output dryRun withSupport)).2.files = w.files := by
  have hannounced := answers_announced form output withSupport
  obtain ⟨mid, hmid, hrun⟩ := hannounced.runIn_eq w
  rw [hannounced.eq, h] at hrun
  rw [runGenerate_eq, runIn_bind, hrun]
  exact ⟨rfl, hmid⟩

/-- A command that generates files goes through a plan. -/
theorem runIn_runGenerate_of_planned {w : World} {form : FormOptions} {output : Option String}
    {withSupport : Bool} {p : Plan}
    (h : answerIn w.files (planned form output withSupport) = .ok p) (dryRun : Bool) :
    ∃ mid, mid.files = w.files ∧
      runIn w (runGenerate form output dryRun withSupport) = runIn mid (carryOut dryRun p) := by
  have hannounced := answers_announced form output withSupport
  obtain ⟨mid, hmid, hrun⟩ := hannounced.runIn_eq w
  rw [hannounced.eq, h] at hrun
  exact ⟨mid, hmid, by rw [runGenerate_eq, runIn_bind_of_ok hrun]⟩

section
variable {w w' : World}

theorem keeps_deliver {file : OutputFile} (h : runIn w (deliver false file) = (.ok (), w')) :
    FileSystem.Keeps [destination file.path] w.files w'.files ∧
      w'.files.read file.path = .ok file.content := by
  obtain ⟨u, mid, hwrite, hsay⟩ := runIn_bind_eq_ok_iff.mp h
  obtain ⟨-, rfl⟩ := Prod.mk.inj hsay
  have hkept := keeps_writeFile hwrite
  exact hkept

/-- Each of the files that were written is read as one of those that went to its location. -/
theorem read_delivered {files : List OutputFile}
    (h : runIn w (files.forM (deliver false)) = (.ok (), w')) :
    FileSystem.Keeps (files.map (destination ·.path)) w.files w'.files ∧
      ∀ file ∈ files, ∃ last ∈ files, destination last.path = destination file.path ∧
        w'.files.read file.path = .ok last.content := by
  induction files generalizing w with
  | nil =>
    obtain rfl := (Prod.mk.inj h).2
    exact ⟨.refl _, fun _ hfile => absurd hfile List.not_mem_nil⟩
  | cons first rest ih =>
    obtain ⟨u, mid, hfirst, hrest⟩ := runIn_bind_eq_ok_iff.mp h
    obtain ⟨hkept, hread⟩ := keeps_deliver hfirst
    obtain ⟨hlater, hreads⟩ := ih hrest
    refine ⟨hkept.trans hlater, List.forall_mem_cons.mpr ⟨?_, fun file hfile => ?_⟩⟩
    · by_cases hagain : destination first.path ∈ rest.map (destination ·.path)
      -- a later file went to the same location, and the path still leads there
      · obtain ⟨file, hfile, hsame⟩ := List.mem_map.mp hagain
        obtain ⟨last, hlast, hplace, hcontent⟩ := hreads file hfile
        have hl := hlater.locate (FileSystem.read_eq_ok_iff.mp hread).1
        have hheld := (FileSystem.read_eq_ok_iff.mp hcontent).2
        rw [hsame] at hheld
        exact ⟨last, List.mem_cons_of_mem _ hlast, hplace.trans hsame,
          FileSystem.read_eq_ok_iff.mpr ⟨hl, hheld⟩⟩
      · exact ⟨first, List.mem_cons_self, rfl, hlater.read hagain hread⟩
    · obtain ⟨last, hlast, hplace, hcontent⟩ := hreads file hfile
      exact ⟨last, List.mem_cons_of_mem _ hlast, hplace, hcontent⟩

theorem read_of_carryOut {p : Plan} (h : runIn w (carryOut false p) = (.ok (), w')) :
    ∀ file ∈ p.files, ∃ last ∈ p.files, destination last.path = destination file.path ∧
      w'.files.read file.path = .ok last.content := by
  obtain ⟨u, mid, -, hdeliver⟩ := runIn_bind_eq_ok_iff.mp h
  exact (read_delivered hdeliver).2

end

/-! ## Setting up a project -/

theorem runIn_firstExisting (w : World) (paths : List String) :
    runIn w (firstExisting paths) = (.ok (paths.find? w.files.pathExists), w) := by
  induction paths with
  | nil => rfl
  | cons path rest ih =>
    have hthere : runIn w (Workspace.pathExists path) = (.ok (w.files.pathExists path), w) := rfl
    rw [firstExisting, runIn_bind_of_ok hthere, List.find?_cons]
    cases w.files.pathExists path with
    | true => rfl
    | false => exact ih

/-- The first of the files that is there. -/
def occupied? (fs : FileSystem) (dir : String) : Option String :=
  ((initFiles dir).map OutputFile.path).find? fs.pathExists

theorem occupied?_eq_none_iff {fs : FileSystem} {dir : String} :
    occupied? fs dir = none ↔ ∀ file ∈ initFiles dir, fs.pathExists file.path = false := by
  simp [occupied?]

section
variable {w : World} {dir : String}

/-- Without force the first file that is there stops the command. -/
theorem runIn_runInit_of_occupied {path : String} (h : occupied? w.files dir = some path) :
    runIn w (runInit dir false) = (.error (.settings (.alreadyExists path)), w) := by
  have hfirst := runIn_firstExisting w ((initFiles dir).map OutputFile.path)
  rw [← occupied?, h] at hfirst
  rw [runInit, if_pos (by rfl)]
  exact runIn_bind_of_ok hfirst _

theorem runIn_runInit_of_free (h : occupied? w.files dir = none) :
    runIn w (runInit dir false) = runIn w (runInit dir true) := by
  have hfirst := runIn_firstExisting w ((initFiles dir).map OutputFile.path)
  rw [← occupied?, h] at hfirst
  rw [runInit, if_pos (by rfl)]
  exact runIn_bind_of_ok hfirst _

end

theorem touches_runInit_true (dir : String) : Touches (initFiles dir)
    (runInit dir true : ExceptT ProjectError InMemory Unit) := by
  have hwrite {file : OutputFile} (hfile : file ∈ initFiles dir) :
      Touches (initFiles dir) (writeFile file) :=
    (touches_writeFile file).mono (by simpa using hfile)
  have hsay (line : String) : Touches (initFiles dir)
      (Workspace.say line : ExceptT ProjectError InMemory Unit) :=
    .of_files_eq (OnlyReads.say line).files
  rw [runInit, if_neg (by simp)]
  refine (hwrite ?_).bind fun _ => (hsay _).bind fun _ => (hwrite ?_).bind fun _ =>
    (hsay _).bind fun _ => hsay _
  · exact List.mem_cons_self
  · exact List.mem_cons_of_mem _ List.mem_cons_self

theorem touches_runInit (dir : String) (force : Bool) : Touches (initFiles dir)
    (runInit dir force : ExceptT ProjectError InMemory Unit) := by
  cases force with
  | true => exact touches_runInit_true dir
  | false =>
    intro w
    cases hoccupied : occupied? w.files dir with
    | some path =>
      rw [runIn_runInit_of_occupied hoccupied]
      exact .refl _ _
    | none =>
      rw [runIn_runInit_of_free hoccupied]
      exact touches_runInit_true dir w

theorem failsPlainly_runInit (dir : String) (force : Bool) :
    FailsPlainly (runInit dir force : ExceptT ProjectError InMemory Unit) := by
  have htrue : FailsPlainly (runInit dir true : ExceptT ProjectError InMemory Unit) := by
    rw [runInit, if_neg (by simp)]
    exact (failsPlainly_writeFile _).bind fun _ => (FailsPlainly.lift _).bind fun _ =>
      (failsPlainly_writeFile _).bind fun _ => (FailsPlainly.lift _).bind fun _ => .lift _
  cases force with
  | true => exact htrue
  | false =>
    intro w e he
    cases hoccupied : occupied? w.files dir with
    | some path =>
      rw [runIn_runInit_of_occupied hoccupied] at he
      obtain rfl := Except.error.inj he
      rfl
    | none =>
      rw [runIn_runInit_of_free hoccupied] at he
      exact htrue w e he

/-! ## All commands -/

/-- What can be said of a run of a command: which files it changes, and how it ends. -/
structure Effects (c : Command) (w after : World) (code : UInt32) : Prop where
  /-- Checks, validations, default values, packages and dry runs change nothing at all. -/
  unchanged : c.writes = false → after.files = w.files
  /-- Nothing is generated unless everything that is to be generated could be planned. -/
  unplanned : ∀ form output dryRun withSupport e, c = .generate form output dryRun withSupport →
    answerIn w.files (planned form output withSupport) = .error e →
    after.files = w.files ∧ code = 1
  /-- A project is not set up over files that are there, unless that is forced. -/
  occupied : ∀ dir, c = .init dir false →
    (∃ file ∈ initFiles dir, w.files.pathExists file.path = true) →
    after.files = w.files ∧ code = 1
  /-- What is generated is what was planned, each file where it belongs. -/
  generated : ∀ form output withSupport, c = .generate form output false withSupport → code = 0 →
    ∃ p, answerIn w.files (planned form output withSupport) = .ok p ∧
      ChangesOnly p.files w.files after.files ∧
      ∀ file ∈ p.files, ∃ last ∈ p.files, destination last.path = destination file.path ∧
        after.files.read file.path = .ok last.content
  /-- Setting up a project changes nothing but its two files. -/
  initialized : ∀ dir force, c = .init dir force →
    ChangesOnly (initFiles dir) w.files after.files
  /-- The code 0 means success: the command found what it looks for, and could write. -/
  succeeds : code = 0 ↔ (runIn w (runCommand c)).1 = .ok ()
  approves : code = 0 → c.Approves w.files
  approved : c.writes = false → c.Approves w.files → code = 0
  /-- The code 2 means that the answer is no, and 1 anything else that keeps a command from being
  done. -/
  denies : code = 2 ↔ c.Denies w.files
  code_cases : code = 0 ∨ code = 1 ∨ code = 2

theorem not_approves_of_unplanned {fs : FileSystem} {form : FormOptions} {output : Option String}
    {dryRun withSupport : Bool} {e : ProjectError}
    (h : answerIn fs (planned form output withSupport) = .error e) :
    ¬ (Command.generate form output dryRun withSupport).Approves fs := by
  rintro ⟨p, hp⟩
  cases h.symm.trans hp

/-- A command that only reads has the effects of a command if its code is right. -/
theorem effects_of_onlyReads (c : Command) (hwrites : c.writes = false)
    (hreads : OnlyReads (runCommand c : ExceptT ProjectError InMemory Unit))
    (hzero : ∀ fs, codeOf (answerIn fs (runCommand c)) = 0 ↔ c.Approves fs)
    (htwo : ∀ fs, codeOf (answerIn fs (runCommand c)) = 2 ↔ c.Denies fs) (w : World) :
    Effects c w (runIn w (runCommand c)).2 (codeOf (runIn w (runCommand c)).1) where
  unchanged _ := hreads.files w
  unplanned := by
    rintro form output dryRun withSupport e rfl hplan
    refine ⟨hreads.files w, ?_⟩
    rw [hreads.answer]
    refine codeOf_eq_one (fun h => ?_) (fun h => ?_)
    · exact not_approves_of_unplanned hplan ((hzero _).mp h)
    · exact (htwo _).mp h
  occupied := by
    rintro dir rfl
    cases hwrites
  generated := by
    rintro form output withSupport rfl
    cases hwrites
  initialized := by
    rintro dir force rfl
    cases hwrites
  succeeds := codeOf_eq_zero_iff
  approves h := (hzero _).mp (hreads.answer w ▸ h)
  approved _ h := by
    rw [hreads.answer]
    exact (hzero _).mpr h
  denies := by
    rw [hreads.answer]
    exact htwo _
  code_cases := codeOf_cases _

theorem failsPlainly_runDefaults (form : FormOptions) :
    FailsPlainly (runDefaults form : ExceptT ProjectError InMemory Unit) :=
  (queries_commandSettings form none false).plain.bind fun settings =>
    (queries_loadForm settings.strictness form.config).plain.bind fun _ => .lift _

theorem failsPlainly_runPackages :
    FailsPlainly (runPackages : ExceptT ProjectError InMemory Unit) :=
  (FailsPlainly.lift _).bind fun _ =>
    (FailsPlainly.forM (fun _ => .lift _) Support.packages).bind fun _ => .lift _

theorem effects_generate (form : FormOptions) (output : Option String) (withSupport : Bool)
    (w : World) :
    Effects (.generate form output false withSupport) w
      (runIn w (runGenerate form output false withSupport)).2
      (codeOf (runIn w (runGenerate form output false withSupport)).1) where
  unchanged h := by cases h
  unplanned := by
    rintro _ _ _ _ e ⟨⟩ hplan
    obtain ⟨hresult, hfiles⟩ := runIn_runGenerate_of_unplanned hplan false
    refine ⟨hfiles, ?_⟩
    rw [hresult]
    exact (queries_planned form output withSupport).exitCode_eq hplan
  occupied := by
    rintro dir ⟨⟩
  generated := by
    rintro _ _ _ ⟨⟩ hcode
    cases hplan : answerIn w.files (planned form output withSupport) with
    | error e =>
      have hresult := (runIn_runGenerate_of_unplanned hplan false).1
      rw [hresult] at hcode
      exact absurd hcode (exitCode_ne_zero e)
    | ok p =>
      obtain ⟨mid, hmid, hrun⟩ := runIn_runGenerate_of_planned hplan false
      rw [hrun] at hcode ⊢
      have hok := codeOf_eq_zero_iff.mp hcode
      refine ⟨p, rfl, hmid ▸ touches_carryOut p mid, ?_⟩
      exact read_of_carryOut (Prod.ext hok rfl)
  initialized := by
    rintro dir force ⟨⟩
  succeeds := codeOf_eq_zero_iff
  approves hcode := by
    cases hplan : answerIn w.files (planned form output withSupport) with
    | ok p => exact ⟨p, hplan⟩
    | error e =>
      have hresult := (runIn_runGenerate_of_unplanned hplan false).1
      rw [hresult] at hcode
      exact absurd hcode (exitCode_ne_zero e)
  approved h := by cases h
  denies :=
    ⟨fun h => absurd h (codeOf_ne_two_of_failsPlainly
      (failsPlainly_runGenerate form output false withSupport) w),
      False.elim⟩
  code_cases := codeOf_cases _

theorem effects_init (dir : String) (force : Bool) (w : World) :
    Effects (.init dir force) w (runIn w (runInit dir force)).2
      (codeOf (runIn w (runInit dir force)).1) where
  unchanged h := by cases h
  unplanned := by
    rintro _ _ _ _ e ⟨⟩
  occupied := by
    rintro _ ⟨⟩ ⟨file, hfile, hthere⟩
    cases hoccupied : occupied? w.files dir with
    | some path =>
      rw [runIn_runInit_of_occupied hoccupied]
      exact ⟨rfl, rfl⟩
    | none =>
      have hfree := occupied?_eq_none_iff.mp hoccupied file hfile
      cases hthere.symm.trans hfree
  generated := by
    rintro _ _ _ ⟨⟩
  initialized := by
    rintro _ _ ⟨⟩
    exact touches_runInit dir force w
  succeeds := codeOf_eq_zero_iff
  approves hcode := by
    rintro rfl
    refine occupied?_eq_none_iff.mp ?_
    cases hoccupied : occupied? w.files dir with
    | none => rfl
    | some path =>
      rw [runIn_runInit_of_occupied hoccupied] at hcode
      cases hcode
  approved h := by cases h
  denies :=
    ⟨fun h => absurd h (codeOf_ne_two_of_failsPlainly (failsPlainly_runInit dir force) w),
      False.elim⟩
  code_cases := codeOf_cases _

/-- Every command has the effects of a command. -/
theorem effects_runCommand (c : Command) (w : World) :
    Effects c w (runIn w (runCommand c)).2 (codeOf (runIn w (runCommand c)).1) := by
  have hplain {x : ExceptT ProjectError InMemory Unit} (hx : FailsPlainly x) (fs : FileSystem) :
      codeOf (answerIn fs x) = 2 ↔ False :=
    ⟨fun h => codeOf_ne_two_of_failsPlainly hx { files := fs } h, False.elim⟩
  cases c with
  | generate form output dryRun withSupport =>
    cases dryRun with
    | false => exact effects_generate form output withSupport w
    | true =>
      exact effects_of_onlyReads (.generate form output true withSupport) rfl
        (answers_runGenerate_dry form output withSupport).toOnlyReads
        (fun fs => codeOf_runGenerate_dry fs form output withSupport)
        (hplain (failsPlainly_runGenerate form output true withSupport)) w
  | check form output withSupport =>
    exact effects_of_onlyReads (.check form output withSupport) rfl
      (answers_runCheck form output withSupport).toOnlyReads
      (fun fs => (codeOf_runCheck fs form output withSupport).1)
      (fun fs => (codeOf_runCheck fs form output withSupport).2) w
  | validate form data =>
    exact effects_of_onlyReads (.validate form data) rfl
      (answers_runValidate form data).toOnlyReads
      (fun fs => (codeOf_runValidate fs form data).1)
      (fun fs => (codeOf_runValidate fs form data).2) w
  | defaults form =>
    exact effects_of_onlyReads (.defaults form) rfl (answers_runDefaults form).toOnlyReads
      (fun fs => codeOf_runDefaults fs form) (hplain (failsPlainly_runDefaults form)) w
  | init dir force => exact effects_init dir force w
  | packages =>
    exact effects_of_onlyReads .packages rfl answers_runPackages.toOnlyReads
      codeOf_runPackages (hplain failsPlainly_runPackages) w

/-- The program ends with the code of its command. -/
theorem exists_run_runArguments {arguments : List String} {c : Command}
    (h : readArguments arguments = .run c) (w : World) :
    ∃ outcome, (runArguments arguments : InMemory Outcome).run w =
        (outcome, (runIn w (runCommand c)).2) ∧
      outcome.code = codeOf (runIn w (runCommand c)).1 := by
  rw [runArguments, h]
  dsimp only
  rw [StateT.run_bind, runIn]
  rcases (runCommand c : ExceptT ProjectError InMemory Unit).run.run w with ⟨e | ⟨⟩, after⟩
  · exact ⟨_, rfl, rfl⟩
  · exact ⟨_, rfl, rfl⟩

/-- **Commands keep to their effects, and exit codes mean what they say.** For all arguments and all
files: asking for help or the version and arguments that make no sense leave the files as they are,
and any command has the effects of a command. -/
theorem runArguments_effects (arguments : List String) (w : World) :
    ∃ outcome after, (runArguments arguments : InMemory Outcome).run w = (outcome, after) ∧
      match readArguments arguments with
      | .version | .help => after.files = w.files ∧ outcome.code = 0
      | .usageError => after.files = w.files
      | .run c => Effects c w after outcome.code := by
  cases hrequest : readArguments arguments with
  | version =>
    rw [runArguments, hrequest]
    exact ⟨_, _, rfl, rfl, rfl⟩
  | help =>
    rw [runArguments, hrequest]
    exact ⟨_, _, rfl, rfl, rfl⟩
  | usageError =>
    rw [runArguments, hrequest]
    exact ⟨_, _, rfl, rfl⟩
  | run c =>
    obtain ⟨outcome, hrun, hcode⟩ := exists_run_runArguments hrequest w
    refine ⟨outcome, _, hrun, ?_⟩
    rw [hcode]
    exact effects_runCommand c w

end WebForm.CommandLine
