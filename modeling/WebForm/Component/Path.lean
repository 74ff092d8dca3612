import WebForm.Source.Literal
/-!
# Paths in generated code

How generated code writes the path of a field. At the top of a form it is a fixed text; inside the
items of a list it is a template literal with the index of the item; and in a component that shows
a list of its own it starts with a variable that holds the path of the list.

Texts between elements and in attributes are written here too: as they are where the markup
allows it, else as a string literal between braces.
-/

set_option autoImplicit false

namespace WebForm.Component

open Source

/-- Code between braces. -/
def braced (code : String) : String := "\x7b" ++ code ++ "\x7d"

/-- A text as the value of an attribute. -/
def attributeText (s : String) : String :=
  if s.toList.any fun c => c == '"' || c == '\\' || c == '\n' || c == '\r' then braced (quote s)
  else "\"" ++ s ++ "\""

/-- A text between elements. -/
def childText (s : String) : String :=
  if s.toList.any fun c => c == '\x7b' || c == '\x7d' || c == '<' || c == '>' then braced (quote s)
  else s

/-- How the path of a field is written. -/
inductive FieldPath where
  /-- A fixed path. -/
  | literal (path : String)
  /-- A variable that holds the path. -/
  | variable (name : String)
  /-- The body of a template literal. -/
  | template (body : String)
deriving DecidableEq, Repr

namespace FieldPath

/-- The path as the value of an attribute. -/
def inAttribute : FieldPath → String
  | .literal path => attributeText path
  | .variable name => braced name
  | .template body => braced ("`" ++ body ++ "`")

/-- The path as an argument of a function. -/
def inCall : FieldPath → String
  | .literal path => quote path
  | .variable name => name
  | .template body => "`" ++ body ++ "`"

/-- A variable inside a template literal. -/
def substitution (name : String) : String := "$" ++ braced name

/-- The path as the body of a template literal. -/
def body : FieldPath → String
  | .literal path => escapeTemplate path
  | .variable name => substitution name
  | .template body => body

/-- The path of the current item of a list, whose index is in the variable `index`. -/
def item (list : FieldPath) : FieldPath := .template (list.body ++ "." ++ substitution "index")

/-- The path of a field of an item. -/
def child (parent : FieldPath) (name : String) : FieldPath :=
  .template (parent.body ++ "." ++ escapeTemplate name)

end FieldPath

end WebForm.Component
