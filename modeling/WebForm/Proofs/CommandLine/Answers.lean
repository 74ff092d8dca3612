import WebForm.CommandLine.Run
import WebForm.Proofs.Project.Reading
/-!
# What commands find

A command starts from the settings, and what it does next depends on them and on the files. Here
each command that only reads is reduced to its answer, and the answer to its exit code: the code is
2 exactly when a check finds that a planned file is missing or has changed, or when a validation
finds errors, and it is 0 exactly when the command finds what it looks for.
-/

set_option autoImplicit false

open WebForm.Outcome

namespace WebForm.CommandLine

open Files Project

/-! ## Steps under the settings of a command -/

section
variable {α : Type} {fs : FileSystem} {form : FormOptions} {output : Option String}
  {withSupport : Bool} {x : Settings → ExceptT ProjectError InMemory α}

theorem queries_commandSettings (form : FormOptions) (output : Option String)
    (withSupport : Bool) :
    Queries (commandSettings form output withSupport : ExceptT ProjectError InMemory Settings) :=
  (queries_loadSettings form.settings).bind fun _ => .pure _

/-- A step under the settings of a command. -/
def configured (form : FormOptions) (output : Option String) (withSupport : Bool)
    (x : Settings → ExceptT ProjectError InMemory α) : ExceptT ProjectError InMemory α := do
  let settings ← commandSettings form output withSupport
  x settings

theorem queries_configured (hx : ∀ settings, Queries (x settings)) :
    Queries (configured form output withSupport x) :=
  (queries_commandSettings form output withSupport).bind hx

theorem answerIn_configured_eq_ok_iff (hx : ∀ settings, Queries (x settings)) {a : α} :
    answerIn fs (configured form output withSupport x) = .ok a ↔
      ∃ settings, answerIn fs (commandSettings form output withSupport) = .ok settings ∧
        answerIn fs (x settings) = .ok a :=
  answerIn_bind_eq_ok_iff (queries_commandSettings form output withSupport).toOnlyReads
    fun settings => (hx settings).toOnlyReads

/-- What a command does after a step may as well wait until the step is done under the settings. -/
theorem answers_configured {β : Type} {z : Settings → ExceptT ProjectError InMemory β}
    {k : α → FileSystem → Except ProjectError β} (hx : ∀ settings, Queries (x settings))
    (hz : ∀ settings, Answers (z settings) fun fs => do let a ← answerIn fs (x settings); k a fs) :
    Answers (commandSettings form output withSupport >>= z) (fun fs => do
      let a ← answerIn fs (configured form output withSupport x)
      k a fs) := by
  have hsettings := (queries_commandSettings form output withSupport).answers
  have hconfigured : Answers (configured form output withSupport x) _ :=
    hsettings.bind fun settings => (hx settings).answers
  refine ⟨(hsettings.bind hz).toOnlyReads, fun fs => ?_⟩
  rw [(hsettings.bind hz).eq, hconfigured.eq, bind_assoc]

end

/-- What a form produces. -/
def planned (form : FormOptions) (output : Option String) (withSupport : Bool) :
    ExceptT ProjectError InMemory Plan :=
  configured form output withSupport fun settings => plan settings form.config

/-- Which files differ from what a form produces. -/
def checked (form : FormOptions) (output : Option String) (withSupport : Bool) :
    ExceptT ProjectError InMemory (List Drift) :=
  configured form output withSupport fun settings => check settings form.config

/-- What is wrong with submitted data. -/
def validated (form : FormOptions) (data : String) :
    ExceptT ProjectError InMemory Schema.ValidationResult :=
  configured form none false fun settings => validate settings form.config data

/-- The form that is loaded. -/
def loaded (form : FormOptions) : ExceptT ProjectError InMemory Form :=
  configured form none false fun settings => loadForm settings.strictness form.config

section
variable (form : FormOptions) (output : Option String) (withSupport : Bool) (data : String)

theorem queries_planned : Queries (planned form output withSupport) :=
  queries_configured fun settings => queries_plan settings form.config

theorem queries_checked : Queries (checked form output withSupport) :=
  queries_configured fun settings => queries_check settings form.config

theorem queries_validated : Queries (validated form data) :=
  queries_configured fun settings => queries_validate settings form.config data

/-! ## Answers -/

theorem answers_runCheck :
    Answers (runCheck form output withSupport : ExceptT ProjectError InMemory Unit) (fun fs => do
      let drifts ← answerIn fs (checked form output withSupport)
      if drifts.isEmpty then .ok () else .error (.outOfDate drifts.length)) := by
  refine answers_configured (fun settings => queries_check settings form.config) fun settings => ?_
  refine .say_bind _ ((queries_check settings form.config).answers.bind fun drifts => ?_)
  exact .ite _ (.say _) ((Answers.throw _).say_bind _ |>.sayEach_bind _ drifts)

theorem answers_runValidate :
    Answers (runValidate form data : ExceptT ProjectError InMemory Unit) (fun fs => do
      let result ← answerIn fs (validated form data)
      if result.valid then .ok () else .error (.rejected result.errors.length)) := by
  refine answers_configured (fun settings => queries_validate settings form.config data)
    fun settings => ?_
  refine (queries_validate settings form.config data).answers.bind fun result => ?_
  exact .ite _ (.say _) ((Answers.throw _).sayEach_bind _ result.errors)

theorem answers_runDefaults :
    Answers (runDefaults form : ExceptT ProjectError InMemory Unit) (fun fs => do
      let _ ← answerIn fs (loaded form)
      .ok ()) := by
  refine answers_configured
    (fun settings => queries_loadForm settings.strictness form.config) fun settings => ?_
  exact (queries_loadForm settings.strictness form.config).answers.bind fun _ => .say _

theorem answers_runPackages :
    Answers (runPackages : ExceptT ProjectError InMemory Unit) fun _ => .ok () :=
  .say_bind _ (.sayEach_bind _ Support.packages (.say _))

theorem answers_deliver_dry (file : OutputFile) :
    Answers (deliver true file : ExceptT ProjectError InMemory Unit) fun _ => .ok () :=
  .say_bind _ (.say_bind _ (.say_bind _ (.say _)))

theorem answers_deliverEach_dry (files : List OutputFile) :
    Answers (files.forM (deliver true) : ExceptT ProjectError InMemory PUnit)
      fun _ => .ok PUnit.unit := by
  induction files with
  | nil => exact (OnlyReads.pure PUnit.unit).answers
  | cons file rest ih => exact (answers_deliver_dry file).bind fun _ => ih

theorem answers_runGenerate_dry :
    Answers (runGenerate form output true withSupport : ExceptT ProjectError InMemory Unit)
      (fun fs => do let _ ← answerIn fs (planned form output withSupport); .ok ()) := by
  refine answers_configured (fun settings => queries_plan settings form.config) fun settings => ?_
  refine .say_bind _ ((queries_plan settings form.config).answers.bind fun p => ?_)
  exact .sayEach_bind _ p.compiled.schema.warnings (answers_deliverEach_dry p.files)

end

/-! ## What is found -/

/-- The files that are written to set up a project. -/
def initFiles (dir : String) : List OutputFile :=
  [⟨joinName dir settingsFile, sampleSettings⟩, ⟨joinName dir "form.json", sampleForm⟩]

namespace Command

/-- Commands that may write files. -/
def writes : Command → Bool
  | .generate _ _ dryRun _ => !dryRun
  | .init _ _ => true
  | .check _ _ _ | .validate _ _ | .defaults _ | .packages => false

/-- The command does its work and the answer is yes, or it is free to write. -/
def Approves (fs : FileSystem) : Command → Prop
  | .generate form output _ withSupport =>
    ∃ p, answerIn fs (planned form output withSupport) = .ok p
  | .check form output withSupport =>
    ∃ p, answerIn fs (planned form output withSupport) = .ok p ∧
      ∀ file ∈ p.files, UpToDate fs file
  | .validate form data =>
    ∃ result, answerIn fs (validated form data) = .ok result ∧ result.errors = []
  | .defaults form => ∃ f, answerIn fs (loaded form) = .ok f
  | .init dir force => force = false → ∀ file ∈ initFiles dir, fs.pathExists file.path = false
  | .packages => True

/-- The command does its work and the answer is no: a check finds that a planned file is missing or
has changed, or a validation finds errors. -/
def Denies (fs : FileSystem) : Command → Prop
  | .check form output withSupport =>
    ∃ p, answerIn fs (planned form output withSupport) = .ok p ∧
      (∀ file ∈ p.files, Comparable fs file) ∧ ∃ file ∈ p.files, ¬ UpToDate fs file
  | .validate form data =>
    ∃ result, answerIn fs (validated form data) = .ok result ∧ result.errors ≠ []
  | .generate _ _ _ _ | .defaults _ | .init _ _ | .packages => False

end Command

section
variable {fs : FileSystem} {form : FormOptions} {output : Option String} {withSupport : Bool}

theorem answerIn_checked_eq_nil_iff :
    answerIn fs (checked form output withSupport) = .ok [] ↔
      (Command.check form output withSupport).Approves fs := by
  rw [checked, answerIn_configured_eq_ok_iff fun settings => queries_check settings form.config,
    Command.Approves]
  simp only [answerIn_check_eq_nil_iff, planned,
    answerIn_configured_eq_ok_iff fun settings => queries_plan settings form.config]
  constructor
  · rintro ⟨settings, hsettings, p, hp, hall⟩
    exact ⟨p, ⟨settings, hsettings, hp⟩, hall⟩
  · rintro ⟨p, ⟨settings, hsettings, hp⟩, hall⟩
    exact ⟨settings, hsettings, p, hp, hall⟩

theorem exists_answerIn_checked_ne_nil_iff :
    (∃ drifts, answerIn fs (checked form output withSupport) = .ok drifts ∧ drifts ≠ []) ↔
      (Command.check form output withSupport).Denies fs := by
  simp only [checked, answerIn_configured_eq_ok_iff fun settings =>
    queries_check settings form.config]
  simp only [Command.Denies, planned,
    answerIn_configured_eq_ok_iff fun settings => queries_plan settings form.config]
  constructor
  · rintro ⟨drifts, ⟨settings, hsettings, hdrifts⟩, hne⟩
    obtain ⟨p, hp, hfound⟩ := exists_answerIn_check_ne_nil_iff.mp ⟨drifts, hdrifts, hne⟩
    exact ⟨p, ⟨settings, hsettings, hp⟩, hfound⟩
  · rintro ⟨p, ⟨settings, hsettings, hp⟩, hfound⟩
    obtain ⟨drifts, hdrifts, hne⟩ := exists_answerIn_check_ne_nil_iff.mpr ⟨p, hp, hfound⟩
    exact ⟨drifts, ⟨settings, hsettings, hdrifts⟩, hne⟩

/-- A result of a validation is valid exactly if there are no errors. -/
theorem valid_of_answerIn_validated {data : String} {result : Schema.ValidationResult}
    (h : answerIn fs (validated form data) = .ok result) :
    result.valid = result.errors.isEmpty := by
  rw [validated, answerIn_configured_eq_ok_iff fun settings =>
    queries_validate settings form.config data] at h
  obtain ⟨settings, -, h⟩ := h
  have hdata (compiled : CompiledForm) : OnlyReads (loadData data >>= fun value =>
      (pure (compiled.schema.validate value) :
        ExceptT ProjectError InMemory Schema.ValidationResult)) :=
    (queries_loadData data).toOnlyReads.bind fun _ => .pure _
  rw [validate, answerIn_bind_eq_ok_iff (queries_compileFile settings form.config).toOnlyReads
    hdata] at h
  obtain ⟨compiled, -, h⟩ := h
  rw [answerIn_bind_eq_ok_iff (queries_loadData data).toOnlyReads fun _ => .pure _] at h
  obtain ⟨value, -, h⟩ := h
  obtain rfl := Except.ok.inj h
  rfl

end

/-! ## Exit codes -/

/-- The exit code for what a command comes to. -/
def codeOf : Except ProjectError Unit → UInt32
  | .ok () => 0
  | .error e => e.exitCode

theorem exitCode_ne_zero (e : ProjectError) : e.exitCode ≠ 0 := by
  cases e <;> simp [ProjectError.exitCode]

/-- A command succeeds exactly if it ends with the code 0. -/
theorem codeOf_eq_zero_iff {result : Except ProjectError Unit} :
    codeOf result = 0 ↔ result = .ok () := by
  cases result with
  | error e => simp [codeOf, exitCode_ne_zero]
  | ok u => simp [codeOf]

theorem codeOf_cases (result : Except ProjectError Unit) :
    codeOf result = 0 ∨ codeOf result = 1 ∨ codeOf result = 2 := by
  cases result with
  | ok u => exact .inl rfl
  | error e => cases e <;> simp [codeOf, ProjectError.exitCode]

/-- A code that says neither yes nor no. -/
theorem codeOf_eq_one {result : Except ProjectError Unit} (hzero : codeOf result ≠ 0)
    (htwo : codeOf result ≠ 2) : codeOf result = 1 := by
  rcases codeOf_cases result with h | h | h
  · exact absurd h hzero
  · exact h
  · exact absurd h htwo

theorem codeOf_ne_two_of_failsPlainly {x : ExceptT ProjectError InMemory Unit}
    (hx : FailsPlainly x) (w : World) : codeOf (runIn w x).1 ≠ 2 := by
  cases hresult : (runIn w x).1 with
  | ok u => simp [codeOf]
  | error e =>
    rw [codeOf, hx w e hresult]
    decide

/-- A report on something that was found says yes with 0 and no with 2, and nothing else does. -/
theorem codeOf_report {α : Type} {x : Except ProjectError α} (good : α → Bool)
    (complaint : α → ProjectError) (hx : ∀ e, x = .error e → e.exitCode = 1)
    (hcomplaint : ∀ a, (complaint a).exitCode = 2) :
    (codeOf (do let a ← x; if good a then .ok () else .error (complaint a)) = 0 ↔
      ∃ a, x = .ok a ∧ good a = true) ∧
    (codeOf (do let a ← x; if good a then .ok () else .error (complaint a)) = 2 ↔
      ∃ a, x = .ok a ∧ good a = false) := by
  cases x with
  | error e => simp [codeOf, hx e rfl]
  | ok a => cases hgood : good a <;> simp [codeOf, hgood, hcomplaint]

section
variable (fs : FileSystem) (form : FormOptions) (output : Option String) (withSupport : Bool)

/-- The code of a check tells what the check found. -/
theorem codeOf_runCheck :
    (codeOf (answerIn fs (runCheck form output withSupport)) = 0 ↔
      (Command.check form output withSupport).Approves fs) ∧
    (codeOf (answerIn fs (runCheck form output withSupport)) = 2 ↔
      (Command.check form output withSupport).Denies fs) := by
  have hplain (e : ProjectError)
      (h : answerIn fs (checked form output withSupport) = .error e) : e.exitCode = 1 :=
    (queries_checked form output withSupport).exitCode_eq h
  obtain ⟨hzero, htwo⟩ := codeOf_report List.isEmpty
    (fun drifts : List Drift => .outOfDate drifts.length) hplain fun _ => rfl
  rw [(answers_runCheck form output withSupport).eq, hzero, htwo, ← answerIn_checked_eq_nil_iff,
    ← exists_answerIn_checked_ne_nil_iff]
  simp

/-- The code of a validation tells what the validation found. -/
theorem codeOf_runValidate (data : String) :
    (codeOf (answerIn fs (runValidate form data)) = 0 ↔
      (Command.validate form data).Approves fs) ∧
    (codeOf (answerIn fs (runValidate form data)) = 2 ↔
      (Command.validate form data).Denies fs) := by
  have hplain (e : ProjectError) (h : answerIn fs (validated form data) = .error e) :
      e.exitCode = 1 := (queries_validated form data).exitCode_eq h
  obtain ⟨hzero, htwo⟩ := codeOf_report Schema.ValidationResult.valid
    (fun result => .rejected result.errors.length) hplain fun _ => rfl
  rw [(answers_runValidate form data).eq, hzero, htwo]
  refine ⟨exists_congr fun result => and_congr_right fun h => ?_,
    exists_congr fun result => and_congr_right fun h => ?_⟩
  · rw [valid_of_answerIn_validated h, List.isEmpty_iff]
  · rw [valid_of_answerIn_validated h, List.isEmpty_eq_false_iff]

/-- Printing the default values succeeds exactly if the form is loaded. -/
theorem codeOf_runDefaults :
    codeOf (answerIn fs (runDefaults form)) = 0 ↔ (Command.defaults form).Approves fs := by
  rw [(answers_runDefaults form).eq, codeOf_eq_zero_iff, bind_eq_ok_iff, Command.Approves]
  simp

/-- A dry run succeeds exactly if the form has a plan. -/
theorem codeOf_runGenerate_dry :
    codeOf (answerIn fs (runGenerate form output true withSupport)) = 0 ↔
      (Command.generate form output true withSupport).Approves fs := by
  rw [(answers_runGenerate_dry form output withSupport).eq, codeOf_eq_zero_iff, bind_eq_ok_iff,
    Command.Approves]
  simp

/-- Listing the packages succeeds. -/
theorem codeOf_runPackages :
    codeOf (answerIn fs runPackages) = 0 ↔ Command.packages.Approves fs := by
  rw [answers_runPackages.eq]
  exact iff_of_true rfl trivial

end

end WebForm.CommandLine
