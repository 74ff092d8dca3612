import WebForm.Files.Path
/-!
# File systems

A file system in memory: which files and directories there are, by location. A location is the
list of names that leads from the working directory to it; the working directory itself is always
there. A path is followed part by part, and every part but the last has to be a directory.
-/

set_option autoImplicit false

namespace WebForm.Files

/-- Why an operation on a file fails. -/
inductive FileError where
  | notFound
  | notDirectory
  | isDirectory
  /-- Any other reason, in the words of the system. -/
  | other (reason : String)
deriving DecidableEq, Repr

/-- The wording of the error. -/
def FileError.message : FileError → String
  | .notFound => "No such file or directory (os error 2)"
  | .notDirectory => "Not a directory (os error 20)"
  | .isDirectory => "Is a directory (os error 21)"
  | .other reason => reason

/-- The names that lead to a file or directory. -/
abbrev Location := List String

/-- What is at a location. -/
inductive Node where
  | file (content : String)
  | directory
deriving DecidableEq, Repr

/-- The files and directories below the working directory. -/
structure FileSystem where
  nodes : List (Location × Node) := []
deriving DecidableEq, Repr

namespace FileSystem

/-- What is at a location. -/
def at? (fs : FileSystem) (location : Location) : Option Node :=
  if location.isEmpty then some .directory else fs.nodes.lookup location

/-- Puts a node in place of what is listed under its location. -/
def putNode (location : Location) (node : Node) :
    List (Location × Node) → List (Location × Node)
  | [] => [(location, node)]
  | (l, old) :: rest =>
    if l = location then (l, node) :: rest else (l, old) :: putNode location node rest

/-- Puts a file or directory at a location. -/
def put (fs : FileSystem) (location : Location) (node : Node) : FileSystem :=
  ⟨putNode location node fs.nodes⟩

/-- Looking something up after it was put into the list. -/
theorem lookup_putNode (location other : Location) (node : Node)
    (nodes : List (Location × Node)) :
    (putNode location node nodes).lookup other =
      if other = location then some node else nodes.lookup other := by
  have cons_ne (l : Location) (n : Node) (rest : List (Location × Node)) (h : other ≠ l) :
      ((l, n) :: rest).lookup other = rest.lookup other := by
    simp [List.lookup_cons, beq_eq_false_iff_ne.mpr h]
  induction nodes with
  | nil =>
    by_cases h : other = location
    · simp [putNode, h]
    · simp [putNode, cons_ne _ _ _ h, h]
  | cons entry rest ih =>
    obtain ⟨l, old⟩ := entry
    by_cases hl : l = location
    · by_cases h : other = location
      · simp [putNode, hl, h]
      · simp [putNode, hl, cons_ne _ _ _ h, h]
    · by_cases h : other = l
      · simp [putNode, h, hl]
      · simp [putNode, hl, cons_ne _ _ _ h, ih]

/-- What was put somewhere is there afterwards. -/
@[simp] theorem at?_put_self (fs : FileSystem) {location : Location} (node : Node)
    (h : location ≠ []) : (fs.put location node).at? location = some node := by
  simp [at?, put, lookup_putNode, h]

/-- Putting something somewhere changes nothing elsewhere. -/
@[simp] theorem at?_put_of_ne (fs : FileSystem) {location other : Location} (node : Node)
    (h : other ≠ location) : (fs.put location node).at? other = fs.at? other := by
  simp [at?, put, lookup_putNode, h]

/-- Where one part of a path leads. -/
def move (here : Location) (part : String) : Location :=
  if part = "" || part = "." then here
  else if part = ".." then here.dropLast
  else here ++ [part]

/-- Follows parts from a location. There need not be anything at the end. -/
def follow (fs : FileSystem) (here : Location) : List String → Except FileError Location
  | [] => .ok here
  | part :: rest =>
    match fs.at? here with
    | none => .error .notFound
    | some (.file _) => .error .notDirectory
    | some .directory => follow fs (move here part) rest

/-- The location of a path. The empty path leads nowhere. -/
def locate (fs : FileSystem) (path : String) : Except FileError Location :=
  if path.isEmpty then .error .notFound else fs.follow [] (parts path)

/-- Whether there is anything at a path. -/
def pathExists (fs : FileSystem) (path : String) : Bool :=
  match fs.locate path with
  | .ok location => (fs.at? location).isSome
  | .error _ => false

/-- The content of the file at a path. -/
def read (fs : FileSystem) (path : String) : Except FileError String := do
  let location ← fs.locate path
  match fs.at? location with
  | none => .error .notFound
  | some .directory => .error .isDirectory
  | some (.file content) => .ok content

/-- Writes the file at a path, whose directory has to be there. -/
def write (fs : FileSystem) (path content : String) : Except FileError FileSystem := do
  let location ← fs.locate path
  match fs.at? location with
  | some .directory => .error .isDirectory
  | _ => .ok (fs.put location (.file content))

/-- Makes the directories that some parts lead through. -/
def makeFrom (fs : FileSystem) (here : Location) : List String → Except FileError FileSystem
  | [] =>
    match fs.at? here with
    | some (.file _) => .error .notDirectory
    | _ => .ok fs
  | part :: rest =>
    match fs.at? here with
    | none => .error .notFound
    | some (.file _) => .error .notDirectory
    | some .directory =>
      let next := move here part
      let made := if (fs.at? next).isSome then fs else fs.put next .directory
      makeFrom made next rest

/-- Makes the directory at a path, and those on the way to it. -/
def makeDirectories (fs : FileSystem) (path : String) : Except FileError FileSystem :=
  if path.isEmpty then .error .notFound else fs.makeFrom [] (parts path)

/-- Removes the file at a path, if there is one. -/
def removeFile (fs : FileSystem) (path : String) : Except FileError FileSystem := do
  let location ← fs.locate path
  match fs.at? location with
  | none => .error .notFound
  | some .directory => .error .isDirectory
  | some (.file _) => .ok ⟨fs.nodes.filter (·.1 ≠ location)⟩

/-- Inserts a file into a list that is sorted by path. -/
def insertSorted (file : String × String) : List (String × String) → List (String × String)
  | [] => [file]
  | other :: rest =>
    if file.1 < other.1 then file :: other :: rest else other :: insertSorted file rest

/-- All files with their contents, sorted by path. -/
def files (fs : FileSystem) : List (String × String) :=
  fs.nodes.foldl (fun sorted (location, node) =>
    match node with
    | .file content => insertSorted ("/".intercalate location, content) sorted
    | .directory => sorted) []

end FileSystem

end WebForm.Files
