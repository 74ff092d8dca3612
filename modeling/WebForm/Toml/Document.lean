import WebForm.Toml.Reader
/-!
# TOML documents

The table that the statements of a document define together. Members belong to the table of the
last header before them, or to the document itself.
-/

set_option autoImplicit false

namespace WebForm.Toml

/-- A document as far as its statements have been taken. -/
structure Progress where
  members : Members := []
  /-- The table that takes members. -/
  current : List String := []

/-- Takes a statement. -/
def Progress.take (p : Progress) : Statement → Option Progress
  | .member key v =>
    (changeAt (addKey key v) p.current p.members).map fun members => { p with members := members }
  | .table key => (addHeader defineTable key p.members).map fun members => ⟨members, key⟩
  | .element key => (addHeader defineElement key p.members).map fun members => ⟨members, key⟩

/-- The table of a document, if the text is well-formed. -/
def parse (text : String) : Option Value := do
  let p ← (← statements? text).foldlM Progress.take {}
  return .table (membersToValues p.members)

end WebForm.Toml
