/-!
# Comments about fields that cannot be generated

A field of an unknown kind takes part in no generated code: a comment stands in its place and
names its type and path.
-/

set_option autoImplicit false

namespace WebForm.Source

/-- What is said about a field of an unknown kind. -/
def unsupportedNote (type path : String) : String :=
  "Unsupported field type: \"" ++ type ++ "\" for field \"" ++ path ++ "\""

/-- The note as a comment on a line. -/
def unsupportedComment (type path : String) : String := "// " ++ unsupportedNote type path

/-- Keeps a text from ending the comment around it. -/
def commentChars : List Char → List Char
  | [] => []
  | '*' :: '/' :: rest => '*' :: ' ' :: '/' :: commentChars rest
  | c :: rest => c :: commentChars rest

/-- A text as it stands inside a comment. -/
def commentText (s : String) : String := String.ofList (commentChars s.toList)

/-- The note as a comment between elements. -/
def unsupportedElement (type path : String) : String :=
  "\x7b/* " ++ unsupportedNote (commentText type) (commentText path) ++ " */\x7d"

end WebForm.Source
