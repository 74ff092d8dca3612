import WebForm.Json.Printer
/-!
# Literals of generated code

How texts and values stand in TypeScript source: quoted strings, regular expressions between
slashes, bodies of template literals, object keys, and whole values. Each escaping is said
character by character, and none of them needs to look further ahead than one character.
-/

set_option autoImplicit false

namespace WebForm.Source

/-! ## Strings -/

/-- A character inside a quoted string. -/
def escapeStringChar : Char → List Char
  | '\\' => ['\\', '\\']
  | '\x27' => ['\\', '\x27']
  | '\n' => ['\\', 'n']
  | '\r' => ['\\', 'r']
  | '\t' => ['\\', 't']
  | c => [c]

/-- The inside of a quoted string. -/
def escapeString (s : String) : String := String.ofList (s.toList.flatMap escapeStringChar)

@[simp] theorem toList_escapeString (s : String) :
    (escapeString s).toList = s.toList.flatMap escapeStringChar := by
  simp [escapeString]

/-- Texts are escaped piece by piece. -/
theorem escapeString_append (s t : String) :
    escapeString (s ++ t) = escapeString s ++ escapeString t := by
  simp [escapeString]

/-- A string literal in single quotes. -/
def quote (s : String) : String := "'" ++ escapeString s ++ "'"

/-! ## Regular expressions -/

/-- Puts a backslash before every slash that has none; `escaped` tells whether the character
before was a backslash that escapes. -/
def escapeSlashes (escaped : Bool) : List Char → List Char
  | [] => []
  | c :: rest =>
    let tail := c :: escapeSlashes (c == '\\' && !escaped) rest
    if c == '/' && !escaped then '\\' :: tail else tail

/-- A character that is escaped stands as it is, a slash too. -/
theorem escapeSlashes_escaped (c : Char) (rest : List Char) :
    escapeSlashes true (c :: rest) = c :: escapeSlashes false rest := by
  simp [escapeSlashes]

theorem escapeSlashes_slash (rest : List Char) :
    escapeSlashes false ('/' :: rest) = '\\' :: '/' :: escapeSlashes false rest := by
  simp [escapeSlashes]

theorem escapeSlashes_backslash (rest : List Char) :
    escapeSlashes false ('\\' :: rest) = '\\' :: escapeSlashes true rest := by
  simp [escapeSlashes]

theorem escapeSlashes_plain {c : Char} (hslash : c ≠ '/') (hbackslash : c ≠ '\\')
    (rest : List Char) : escapeSlashes false (c :: rest) = c :: escapeSlashes false rest := by
  simp [escapeSlashes, hslash, beq_eq_false_iff_ne.mpr hbackslash]

/-- The inside of a regular expression literal. -/
def escapeRegex (pattern : String) : String := String.ofList (escapeSlashes false pattern.toList)

/-! ## Template literals -/

/-- Escapes backslashes, backticks, and dollar signs that would open a substitution. -/
def escapeTemplateChars : List Char → List Char
  | [] => []
  | '\\' :: rest => '\\' :: '\\' :: escapeTemplateChars rest
  | '\x60' :: rest => '\\' :: '\x60' :: escapeTemplateChars rest
  | '$' :: '\x7b' :: rest => '\\' :: '$' :: '\x7b' :: escapeTemplateChars rest
  | c :: rest => c :: escapeTemplateChars rest

/-- The inside of a template literal that stands for a text. -/
def escapeTemplate (s : String) : String := String.ofList (escapeTemplateChars s.toList)

/-! ## Keys -/

/-- Characters that an identifier may start with. -/
def isIdentifierStart (c : Char) : Bool := c.isAlpha || c == '_' || c == '$'

/-- Characters that an identifier may go on with. -/
def isIdentifierPart (c : Char) : Bool := c.isAlphanum || c == '_' || c == '$'

/-- Whether a text is a plain identifier, made of ASCII characters. -/
def isIdentifier (s : String) : Bool :=
  match s.toList with
  | [] => false
  | c :: rest => isIdentifierStart c && rest.all isIdentifierPart

/-- The key of a member, quoted unless it is an identifier. -/
def propertyKey (name : String) : String := if isIdentifier name then name else quote name

/-! ## Values -/

mutual

/-- A JSON value as a literal. -/
def literal : Json → String
  | .null => "null"
  | .bool b => if b then "true" else "false"
  | .number n => Json.numberText n
  | .string s => quote s
  | .array [] => "[]"
  | .array items => "[" ++ ", ".intercalate (literalItems items) ++ "]"
  | .object [] => "\x7b\x7d"
  | .object members => "\x7b " ++ ", ".intercalate (literalMembers members) ++ " \x7d"
termination_by structural v => v

/-- The literals of the items. -/
def literalItems : List Json → List String
  | [] => []
  | item :: rest => literal item :: literalItems rest
termination_by structural items => items

/-- The members, each with its key. -/
def literalMembers : List (String × Json) → List String
  | [] => []
  | (name, value) :: rest => (propertyKey name ++ ": " ++ literal value) :: literalMembers rest
termination_by structural members => members

end

end WebForm.Source
