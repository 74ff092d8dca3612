import WebForm.Toml.Scalar
import WebForm.Toml.Table
/-!
# TOML statements

A settings file is a list of statements, one a line: a key with its value, or the header of a
table or of an element of an array of tables. This module reads the statements; what they define
together is settled when they are assembled.
-/

set_option autoImplicit false

namespace WebForm.Toml

/-! ## Gaps -/

/-- Drops spaces and tabs. -/
def skipBlanks (cs : List Char) : List Char := cs.dropWhile isBlank

/-- Passes over a comment, if there is one, up to the end of its line. -/
def skipComment : List Char → Option (List Char)
  | '#' :: rest =>
    let after := rest.dropWhile isPlain
    match after with
    | [] | '\n' :: _ | '\r' :: '\n' :: _ => some after
    | _ => none
  | cs => some cs

/-- Passes over blanks, a comment and a line end, as far as they are there. -/
def skipLine (cs : List Char) : Option (List Char) :=
  (skipComment (skipBlanks cs)).map fun
    | '\n' :: rest => rest
    | '\r' :: '\n' :: rest => rest
    | cs => cs

/-- Passes over blanks, comments and line ends. -/
def skipGap : Nat → List Char → Option (List Char)
  | 0, cs => some cs
  | fuel + 1, cs => do
    let rest ← skipLine cs
    if rest.length < cs.length then skipGap fuel rest else some rest

/-- Passes over a gap of any length. -/
def gap (cs : List Char) : Option (List Char) := skipGap (cs.length + 1) cs

/-! ## Keys -/

/-- Characters of a key without quotes. -/
def isKeyChar (c : Char) : Bool := c.isAlphanum || c == '_' || c == '-'

/-- One part of a key. -/
def keyPart (cs : List Char) : Option (String × List Char) :=
  let bare := cs.takeWhile isKeyChar
  if bare.isEmpty then lineString cs else some (String.ofList bare, cs.dropWhile isKeyChar)

/-- The parts of a key that follow its first one, each behind a point. -/
def moreKeyParts : Nat → List Char → Option (List String × List Char)
  | 0, cs => some ([], cs)
  | fuel + 1, cs =>
    match skipBlanks cs with
    | '.' :: rest => do
      let (part, rest) ← keyPart (skipBlanks rest)
      let (parts, rest) ← moreKeyParts fuel rest
      return (part :: parts, rest)
    | rest => some ([], rest)

/-- A key has at most this many parts. -/
def maxKeyParts : Nat := 80

/-- A key: one part or several, the path to a member. -/
def key (cs : List Char) : Option (List String × List Char) := do
  let (part, rest) ← keyPart (skipBlanks cs)
  let (parts, rest) ← moreKeyParts rest.length rest
  if parts.length < maxKeyParts then return (part :: parts, rest) else none

/-! ## Values -/

/-- The items of an array up to its closing bracket, read one by one with `readItem`. -/
def arrayItems (readItem : List Char → Option (Value × List Char)) :
    Nat → List Char → Option (List Value × List Char)
  | 0, _ => none
  | fuel + 1, cs => do
    match ← gap cs with
    | ']' :: rest => some ([], rest)
    | cs =>
      let (item, rest) ← readItem cs
      match ← gap rest with
      | ',' :: rest =>
        let (items, rest) ← arrayItems readItem fuel rest
        return (item :: items, rest)
      | ']' :: rest => some ([item], rest)
      | _ => none

/-- The members of an inline table up to its closing brace. -/
def inlineMembers (readItem : List Char → Option (Value × List Char)) (members : Members) :
    Nat → List Char → Option (Members × List Char)
  | 0, _ => none
  | fuel + 1, cs => do
    match ← gap cs with
    | '\x7d' :: rest => some (members, rest)
    | cs =>
      let (parts, rest) ← key cs
      let (item, rest) ← readItem (← gap (← expect '=' (← gap rest)))
      let members ← addKey parts item members
      match ← gap rest with
      | ',' :: rest => inlineMembers readItem members fuel rest
      | '\x7d' :: rest => some (members, rest)
      | _ => none

/-- Arrays and inline tables nest this deep. -/
def maxDepth : Nat := 80

/-- A value; arrays and inline tables may nest `room` deep. -/
def readValue : Nat → List Char → Option (Value × List Char)
  | _, '"' :: rest => (anyString ('"' :: rest)).map fun (s, rest) => (.string s, rest)
  | _, '\x27' :: rest => (anyString ('\x27' :: rest)).map fun (s, rest) => (.string s, rest)
  | 0, cs =>
    match cs with
    | '[' :: _ | '\x7b' :: _ => none
    | cs => readScalar cs
  | room + 1, cs =>
    match cs with
    | '[' :: rest =>
      (arrayItems (readValue room) (rest.length + 1) rest).map fun (items, rest) =>
        (.array items, rest)
    | '\x7b' :: rest =>
      (inlineMembers (readValue room) [] (rest.length + 1) rest).map fun (members, rest) =>
        (.table (membersToValues members), rest)
    | cs => readScalar cs

/-! ## Statements -/

/-- One statement of a document. -/
inductive Statement where
  | member (key : List String) (value : Value)
  | table (key : List String)
  | element (key : List String)

/-- What follows a statement on its line must be blanks and a comment. -/
def endOfStatement (cs : List Char) : Option (List Char) := do
  match ← skipComment (skipBlanks cs) with
  | [] => some []
  | '\n' :: rest => some rest
  | '\r' :: '\n' :: rest => some rest
  | _ => none

/-- A statement without what follows it. -/
def readStatement (cs : List Char) : Option (Statement × List Char) :=
  match cs with
  | '[' :: '[' :: rest => do
    let (parts, rest) ← key rest
    let rest ← expect ']' (skipBlanks rest)
    let rest ← expect ']' rest
    return (.element parts, rest)
  | '[' :: rest => do
    let (parts, rest) ← key rest
    return (.table parts, ← expect ']' (skipBlanks rest))
  | cs => do
    let (parts, rest) ← key cs
    let rest ← expect '=' (skipBlanks rest)
    let (v, rest) ← readValue maxDepth (skipBlanks rest)
    return (.member parts v, rest)

/-- The statements of a text, each of which takes at least one character. -/
def readStatements : Nat → List Char → Option (List Statement)
  | 0, _ => none
  | fuel + 1, cs => do
    match ← gap cs with
    | [] => return []
    | cs =>
      let (s, rest) ← readStatement cs
      return s :: (← readStatements fuel (← endOfStatement rest))

/-- The mark that may stand before the text of a file. -/
def dropByteOrderMark : List Char → List Char
  | '\ufeff' :: rest => rest
  | cs => cs

/-- The statements of a document. -/
def statements? (text : String) : Option (List Statement) :=
  let cs := dropByteOrderMark text.toList
  readStatements (cs.length + 1) cs

end WebForm.Toml
