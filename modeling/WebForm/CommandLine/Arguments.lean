/-!
# Command-line arguments

Which commands there are, and how a list of arguments names one. Options have a long name, most of
them a short one too, and take a value or none. A value stands behind an equals sign, directly
behind a short name, or in the next argument; there it must not look like an option. Arguments are
read from left to right, and the first one that is wrong, or that asks for help or the version,
settles the outcome.
-/

set_option autoImplicit false

namespace WebForm.CommandLine

/-! ## Commands -/

/-- The options of every command that reads a form. -/
structure FormOptions where
  /-- The form. -/
  config : String
  /-- The settings file. -/
  settings : Option String := none
  permissive : Bool := false
deriving DecidableEq, Repr

/-- A command. -/
inductive Command where
  /-- Generates the files of a form, or shows them only. -/
  | generate (form : FormOptions) (output : Option String) (dryRun withSupport : Bool)
  /-- Tells whether the generated files are up to date. -/
  | check (form : FormOptions) (output : Option String) (withSupport : Bool)
  /-- Checks submitted data against a form. -/
  | validate (form : FormOptions) (data : String)
  /-- Prints the default values of a form. -/
  | defaults (form : FormOptions)
  /-- Writes a settings file and a sample form. -/
  | init (dir : String) (force : Bool)
  /-- Lists the packages that generated code depends on. -/
  | packages
deriving DecidableEq, Repr

/-- What a list of arguments asks for. -/
inductive Request where
  | run (c : Command)
  | version
  | help
  /-- The arguments make no sense. -/
  | usageError
deriving DecidableEq, Repr

/-! ## Options -/

/-- The options of all commands. -/
inductive Flag where
  | verbose | help | version | config | settings | permissive | output | dryRun | withSupport
  | data | dir | force
deriving DecidableEq, Repr

namespace Flag

/-- The long name. -/
def long : Flag → String
  | .verbose => "verbose"
  | .help => "help"
  | .version => "version"
  | .config => "config"
  | .settings => "settings"
  | .permissive => "permissive"
  | .output => "output"
  | .dryRun => "dry-run"
  | .withSupport => "with-support"
  | .data => "data"
  | .dir => "dir"
  | .force => "force"

/-- The short name, if there is one. -/
def short? : Flag → Option Char
  | .verbose => some 'v'
  | .help => some 'h'
  | .version => some 'V'
  | .config => some 'c'
  | .settings => some 's'
  | .output => some 'o'
  | .data | .dir => some 'd'
  | .permissive | .dryRun | .withSupport | .force => none

/-- Whether the option takes a value. -/
def takesValue : Flag → Bool
  | .config | .settings | .output | .data | .dir => true
  | _ => false

end Flag

/-- An option that was given, with its value if it takes one. -/
structure Given where
  flag : Flag
  value : String := ""
deriving DecidableEq, Repr

/-- Adds an option to those given before. An option is given at most once, its value is not empty,
and asking for help or the version settles the outcome at once. -/
def give (given : List Given) (g : Given) : Except Request (List Given) :=
  if g.flag = .help then .error .help
  else if g.flag = .version then .error .version
  else if given.any (·.flag = g.flag) then .error .usageError
  else if g.flag.takesValue && g.value.isEmpty then .error .usageError
  else .ok (given ++ [g])

/-- Whether an argument can be the value of the option before it. -/
def isValue (argument : String) : Bool := argument = "-" || !argument.startsWith "-"

/-! ## Reading arguments -/

/-- What a cluster of short names leaves to be read. -/
inductive Awaiting where
  | nothing
  /-- The value of an option, in the next argument. -/
  | valueOf (flag : Flag)

/-- Reads short names behind one dash. An option that takes a value takes the rest of the
argument, if there is any. -/
def readCluster (allowed : List Flag) (given : List Given) :
    List Char → Except Request (List Given × Awaiting)
  | [] => .ok (given, .nothing)
  | c :: rest =>
    match allowed.find? (·.short? = some c) with
    | none => .error .usageError
    | some flag =>
      if flag.takesValue then
        if rest.isEmpty then .ok (given, .valueOf flag)
        else
          let value := if rest.head? = some '=' then rest.drop 1 else rest
          (give given ⟨flag, String.ofList value⟩).map fun given => (given, .nothing)
      else do
        let given ← give given ⟨flag, ""⟩
        readCluster allowed given rest

/-- Reads a long name, with its value if that stands behind an equals sign. -/
def readLong (allowed : List Flag) (given : List Given) (text : List Char) :
    Except Request (List Given × Awaiting) :=
  let name := String.ofList (text.takeWhile (· != '='))
  let attached := text.dropWhile (· != '=')
  match allowed.find? (·.long = name) with
  | none => .error .usageError
  | some flag =>
    if flag.takesValue then
      if attached.isEmpty then .ok (given, .valueOf flag)
      else
        (give given ⟨flag, String.ofList (attached.drop 1)⟩).map fun given => (given, .nothing)
    else if attached.isEmpty then
      (give given ⟨flag, ""⟩).map fun given => (given, .nothing)
    else .error .usageError

/-- Reads options up to the first argument that is none: gives back the options, and that
argument with what follows it. -/
def readOptions (allowed : List Flag) (given : List Given) :
    List String → Except Request (List Given × List String)
  | [] => .ok (given, [])
  | argument :: rest =>
    if argument = "--" then
      if rest.isEmpty then .ok (given, []) else .error .usageError
    else
      let read : Except Request (Option (List Given × Awaiting)) :=
        match argument.toList with
        | '-' :: '-' :: text => (readLong allowed given text).map some
        | '-' :: c :: text => (readCluster allowed given (c :: text)).map some
        | _ => .ok none
      match read with
      | .error e => .error e
      | .ok none => .ok (given, argument :: rest)
      | .ok (some (given, .nothing)) => readOptions allowed given rest
      | .ok (some (given, .valueOf flag)) =>
        match rest with
        | [] => .error .usageError
        | value :: rest =>
          if isValue value then
            match give given ⟨flag, value⟩ with
            | .error e => .error e
            | .ok given => readOptions allowed given rest
          else .error .usageError

/-! ## Commands of arguments -/

/-- The options of every command that reads a form. -/
def formFlags : List Flag := [.config, .settings, .permissive]

/-- The value of an option, if it was given. -/
def valueOf? (flag : Flag) (given : List Given) : Option String :=
  (given.find? (·.flag = flag)).map Given.value

/-- Whether an option was given. -/
def has (flag : Flag) (given : List Given) : Bool := given.any (·.flag = flag)

/-- The options for the form, which has to be named. -/
def formOptions? (given : List Given) : Option FormOptions :=
  (valueOf? .config given).map fun config =>
    ⟨config, valueOf? .settings given, has .permissive given⟩

/-- The commands by name: the options that each allows, and the command of the options given. -/
def commandNamed? : String → Option (List Flag × (List Given → Option Command))
  | "generate" => some (formFlags ++ [.output, .dryRun, .withSupport], fun given =>
      (formOptions? given).map fun form =>
        .generate form (valueOf? .output given) (has .dryRun given) (has .withSupport given))
  | "check" => some (formFlags ++ [.output, .withSupport], fun given =>
      (formOptions? given).map fun form =>
        .check form (valueOf? .output given) (has .withSupport given))
  | "validate" => some (formFlags ++ [.data], fun given => do
      return .validate (← formOptions? given) (← valueOf? .data given))
  | "defaults" => some (formFlags, fun given => (formOptions? given).map .defaults)
  | "init" => some ([.dir, .force], fun given =>
      some (.init ((valueOf? .dir given).getD ".") (has .force given)))
  | "packages" => some ([], fun _ => some .packages)
  | _ => none

/-- Reads the arguments behind the name of a command. -/
def readCommand (name : String) (arguments : List String) : Except Request Request :=
  match commandNamed? name with
  | none => .error (if name = "help" then .help else .usageError)
  | some (flags, command?) => do
    match ← readOptions (flags ++ [.verbose, .help]) [] arguments with
    | (given, []) =>
      match command? given with
      | some c => return .run c
      | none => throw .usageError
    | (_, _ :: _) => throw .usageError

/-- What the arguments of the program ask for. -/
def readArguments (arguments : List String) : Request :=
  let outcome : Except Request Request := do
    match ← readOptions [.verbose, .help, .version] [] arguments with
    | (_, []) => throw .usageError
    | (_, name :: rest) => readCommand name rest
  match outcome with
  | .ok request | .error request => request

end WebForm.CommandLine
