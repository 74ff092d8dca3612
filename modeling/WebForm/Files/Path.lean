/-!
# Paths

Paths as users write them: names between slashes. A path is kept as it was given, because messages
show it that way; only looking something up cuts it into parts.
-/

set_option autoImplicit false

namespace WebForm.Files

/-- Splits a text at slashes. -/
def splitParts : List Char → List (List Char)
  | [] => [[]]
  | c :: rest =>
    if c = '/' then [] :: splitParts rest
    else
      match splitParts rest with
      | [] => [[c]]
      | part :: parts => (c :: part) :: parts

/-- There is always a first part, if an empty one. -/
theorem splitParts_ne_nil (cs : List Char) : splitParts cs ≠ [] := by
  cases cs with
  | nil => simp [splitParts]
  | cons c rest =>
    unfold splitParts
    split
    · simp
    · split <;> simp

/-- The parts of a path, where two slashes in a row have an empty part between them. -/
def parts (path : String) : List String := (splitParts path.toList).map String.ofList

/-- A file in a directory. -/
def joinName (dir name : String) : String :=
  if dir.isEmpty || dir.toList.getLast? = some '/' then dir ++ name else dir ++ "/" ++ name

/-- Parts, last one first, without those at their end that lead nowhere. The first part of a path
is kept even if it is a point. -/
def dropIdle : List String → List String
  | [] => []
  | [part] => [part]
  | part :: rest => if part = "" || part = "." then dropIdle rest else part :: rest

/-- The directory part of the path of a file; empty if there is none. -/
def parent (path : String) : String :=
  "/".intercalate (dropIdle ((parts path).reverse.drop 1)).reverse

end WebForm.Files
