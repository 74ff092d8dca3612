import WebForm.Json.Basic
import WebForm.Number.Layout
/-!
# JSON text

Writes JSON values: compactly, without any space, or over several lines with two spaces for each
level. A string is written with its quotes, backslashes and control characters escaped and all
else as it is. Empty arrays and objects take no line of their own in either form.
-/

set_option autoImplicit false

namespace WebForm.Json

/-- A hexadecimal digit in lower case. -/
def hexDigit (n : Nat) : Char := (Nat.digitChar n).toLower

/-- The escape of a character inside a JSON string. -/
def escapeChar (c : Char) : List Char :=
  match c with
  | '"' => ['\\', '"']
  | '\\' => ['\\', '\\']
  | '\n' => ['\\', 'n']
  | '\r' => ['\\', 'r']
  | '\t' => ['\\', 't']
  | '\x08' => ['\\', 'b']
  | '\x0c' => ['\\', 'f']
  | c =>
    if c.toNat < 0x20 then
      ['\\', 'u', '0', '0', hexDigit (c.toNat / 16), hexDigit (c.toNat % 16)]
    else [c]

/-- A string between quotes. -/
def quoted (s : String) : String :=
  String.ofList ('"' :: s.toList.flatMap escapeChar ++ ['"'])

/-- The text of a number. -/
def numberText : JsonNumber → String
  | .integer n => toString n.val
  | .double d => d.documentText

/-! ## Compact text -/

mutual

/-- The value without any space. -/
def compact : Json → String
  | .null => "null"
  | .bool b => if b then "true" else "false"
  | .number n => numberText n
  | .string s => quoted s
  | .array items => "[" ++ ",".intercalate (compactItems items) ++ "]"
  | .object members => "\x7b" ++ ",".intercalate (compactMembers members) ++ "\x7d"
termination_by structural j => j

/-- The texts of the items. -/
def compactItems : List Json → List String
  | [] => []
  | item :: rest => compact item :: compactItems rest
termination_by structural items => items

/-- The texts of the members. -/
def compactMembers : List (String × Json) → List String
  | [] => []
  | (name, value) :: rest => (quoted name ++ ":" ++ compact value) :: compactMembers rest
termination_by structural members => members

end

/-! ## Text over several lines -/

/-- The start of a line at a depth. -/
def freshLine (depth : Nat) : String := "\n" ++ String.ofList (List.replicate (2 * depth) ' ')

mutual

/-- The value over several lines, when it starts on a line of the given depth. -/
def pretty (depth : Nat) : Json → String
  | .null => "null"
  | .bool b => if b then "true" else "false"
  | .number n => numberText n
  | .string s => quoted s
  | .array [] => "[]"
  | .array items =>
    "[" ++ ",".intercalate (prettyItems (depth + 1) items) ++ freshLine depth ++ "]"
  | .object [] => "\x7b\x7d"
  | .object members =>
    "\x7b" ++ ",".intercalate (prettyMembers (depth + 1) members) ++ freshLine depth ++ "\x7d"
termination_by structural j => j

/-- The items, each on a line of its own. -/
def prettyItems (depth : Nat) : List Json → List String
  | [] => []
  | item :: rest => (freshLine depth ++ pretty depth item) :: prettyItems depth rest
termination_by structural items => items

/-- The members, each on a line of its own. -/
def prettyMembers (depth : Nat) : List (String × Json) → List String
  | [] => []
  | (name, value) :: rest =>
    (freshLine depth ++ quoted name ++ ": " ++ pretty depth value) :: prettyMembers depth rest
termination_by structural members => members

end

end WebForm.Json
