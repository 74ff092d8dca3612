/-!
# Files to start from

What a new project starts with: a settings file that spells out the defaults, and a small form
with one field of most kinds.
-/

set_option autoImplicit false

namespace WebForm.CommandLine

/-- The lines of the settings file. -/
def settingsLines : List String :=
  ["# formsmith settings",
    "",
    "[output]",
    "# Directory receiving the generated component, schema and types",
    "dir = \"./generated\"",
    "",
    "# Also write FieldWrapper.tsx and SelectFieldWrapper.tsx",
    "support = false",
    "",
    "[emit]",
    "# Indentation: \"spaces2\", \"spaces4\" or \"tabs\"",
    "indent = \"spaces2\"",
    "",
    "# Line endings: \"lf\" or \"crlf\"",
    "line_ending = \"lf\"",
    "",
    "[load]",
    "# \"strict\" rejects unknown field types and missing options;",
    "# \"permissive\" keeps them and degrades per field",
    "strictness = \"strict\""]

/-- The lines of the form. -/
def formLines : List String :=
  ["\x7b",
    "  \"title\": \"User Registration Form\",",
    "  \"fields\": [",
    "    \x7b",
    "      \"name\": \"firstName\",",
    "      \"type\": \"text\",",
    "      \"label\": \"First Name\",",
    "      \"required\": true,",
    "      \"validation\": \x7b \"minLength\": 2, \"maxLength\": 50 \x7d",
    "    \x7d,",
    "    \x7b",
    "      \"name\": \"email\",",
    "      \"type\": \"email\",",
    "      \"label\": \"Email Address\",",
    "      \"required\": true",
    "    \x7d,",
    "    \x7b",
    "      \"name\": \"age\",",
    "      \"type\": \"number\",",
    "      \"label\": \"Age\",",
    "      \"validation\": \x7b \"min\": 18, \"max\": 120 \x7d",
    "    \x7d,",
    "    \x7b",
    "      \"name\": \"role\",",
    "      \"type\": \"select\",",
    "      \"label\": \"Role\",",
    "      \"required\": true,",
    "      \"options\": [\"Developer\", \"Designer\", \"Manager\"]",
    "    \x7d,",
    "    \x7b",
    "      \"name\": \"newsletter\",",
    "      \"type\": \"boolean\",",
    "      \"label\": \"Subscribe to newsletter\"",
    "    \x7d,",
    "    \x7b",
    "      \"name\": \"hobbies\",",
    "      \"type\": \"array\",",
    "      \"label\": \"Hobbies\",",
    "      \"itemType\": \"text\"",
    "    \x7d",
    "  ]",
    "\x7d"]

/-- Lines as the content of a file. -/
def textOf (lines : List String) : String := String.join (lines.map fun line => line ++ "\n")

/-- The settings file of a new project. -/
def sampleSettings : String := textOf settingsLines

/-- The form of a new project. -/
def sampleForm : String := textOf formLines

end WebForm.CommandLine
