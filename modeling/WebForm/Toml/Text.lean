import WebForm.Number.Numeral
/-!
# TOML strings

The four kinds of strings: basic strings, in which a backslash escapes, and literal strings, in
which it stands for itself, each on one line or over several. A reader starts behind the opening
quotes and gives back the text with what follows the closing quotes, or nothing if the string is
malformed.
-/

set_option autoImplicit false

namespace WebForm.Toml

/-- Space and tab. -/
def isBlank (c : Char) : Bool := c == ' ' || c == '\t'

/-- Characters that may stand in strings and comments: all but control characters, though the tab
is fine. -/
def isPlain (c : Char) : Bool := c == '\t' || (0x20 ≤ c.toNat && c.toNat != 0x7F)

/-- The value of a hexadecimal digit. -/
def hexValue? (c : Char) : Option Nat :=
  if Numeral.isDigit c then some (Numeral.digitValue c)
  else if 'a' ≤ c && c ≤ 'f' then some (c.toNat - 'a'.toNat + 10)
  else if 'A' ≤ c && c ≤ 'F' then some (c.toNat - 'A'.toNat + 10)
  else none

/-- The character of some hexadecimal digits. -/
def charOfHex? (digits : List Char) : Option Char := do
  let n ← digits.foldlM (fun n c => (hexValue? c).map (n * 16 + ·)) 0
  if n < 0xD800 || (0xDFFF < n && n < 0x110000) then some (Char.ofNat n) else none

/-- The character that a letter behind a backslash stands for. -/
def escaped? : Char → Option Char
  | 'b' => some '\x08'
  | 't' => some '\t'
  | 'n' => some '\n'
  | 'f' => some '\x0c'
  | 'r' => some '\r'
  | 'e' => some '\x1b'
  | '"' => some '"'
  | '\\' => some '\\'
  | _ => none

/-- Puts a character before what is read. -/
def push (c : Char) (r : Option (List Char × List Char)) : Option (List Char × List Char) :=
  r.map fun (cs, rest) => (c :: cs, rest)

/-- A basic string on one line. -/
def basicString : List Char → Option (List Char × List Char)
  | [] => none
  | '"' :: rest => some ([], rest)
  | '\\' :: 'x' :: a :: b :: rest => do push (← charOfHex? [a, b]) (basicString rest)
  | '\\' :: 'u' :: a :: b :: c :: d :: rest => do
    push (← charOfHex? [a, b, c, d]) (basicString rest)
  | '\\' :: 'U' :: a :: b :: c :: d :: e :: f :: g :: h :: rest => do
    push (← charOfHex? [a, b, c, d, e, f, g, h]) (basicString rest)
  | '\\' :: c :: rest => do push (← escaped? c) (basicString rest)
  | c :: rest => if isPlain c && c != '\\' then push c (basicString rest) else none

/-- A literal string on one line. -/
def literalString : List Char → Option (List Char × List Char)
  | [] => none
  | c :: rest =>
    if c = '\x27' then some ([], rest)
    else if isPlain c then push c (literalString rest)
    else none

/-- What follows three quotes that close a string: up to two more belong to its text. -/
def closing (quote : Char) : List Char → List Char × List Char
  | a :: b :: rest =>
    if a = quote then if b = quote then ([a, b], rest) else ([a], b :: rest)
    else ([], a :: b :: rest)
  | [a] => if a = quote then ([a], []) else ([], [a])
  | [] => ([], [])

/-- Where a reader is with a backslash at the end of a line. -/
inductive Fold where
  /-- There is none. -/
  | none
  /-- The backslash was read, and the end of its line has to follow. -/
  | toLineEnd
  /-- The line has ended, and blanks and line ends are left out. -/
  | toText
deriving DecidableEq, Repr

/-- A basic string over several lines. -/
def basicText (fold : Fold) : List Char → Option (List Char × List Char)
  | [] => none
  | c :: rest =>
    if fold ≠ .none && isBlank c then basicText fold rest
    else if fold ≠ .none && c == '\r' && rest.head? == some '\n' then basicText fold rest
    else if fold ≠ .none && c == '\n' then basicText .toText rest
    else if fold = .toLineEnd then none
    else
      match c, rest with
      | '"', '"' :: '"' :: rest => some (closing '"' rest)
      | '\\', 'x' :: a :: b :: rest => do push (← charOfHex? [a, b]) (basicText .none rest)
      | '\\', 'u' :: a :: b :: c :: d :: rest => do
        push (← charOfHex? [a, b, c, d]) (basicText .none rest)
      | '\\', 'U' :: a :: b :: c :: d :: e :: f :: g :: h :: rest => do
        push (← charOfHex? [a, b, c, d, e, f, g, h]) (basicText .none rest)
      | '\\', e :: rest =>
        if isBlank e || e == '\r' then basicText .toLineEnd rest
        else if e == '\n' then basicText .toText rest
        else do push (← escaped? e) (basicText .none rest)
      | '\r', '\n' :: rest => push '\r' (push '\n' (basicText .none rest))
      | c, rest =>
        if (isPlain c || c == '\n') && c != '\\' then push c (basicText .none rest) else none

/-- A literal string over several lines. -/
def literalText : List Char → Option (List Char × List Char)
  | [] => none
  | '\x27' :: '\x27' :: '\x27' :: rest => some (closing '\x27' rest)
  | '\r' :: '\n' :: rest => push '\r' (push '\n' (literalText rest))
  | c :: rest => if isPlain c || c == '\n' then push c (literalText rest) else none

/-- Drops the line end that directly follows the opening quotes. -/
def dropFirstLineEnd : List Char → List Char
  | '\n' :: rest => rest
  | '\r' :: '\n' :: rest => rest
  | cs => cs

/-- A string on one line, from its opening quote on. -/
def lineString : List Char → Option (String × List Char)
  | '"' :: rest => (basicString rest).map fun (cs, rest) => (String.ofList cs, rest)
  | '\x27' :: rest => (literalString rest).map fun (cs, rest) => (String.ofList cs, rest)
  | _ => none

/-- A string of any kind, from its opening quotes on. -/
def anyString : List Char → Option (String × List Char)
  | '"' :: '"' :: '"' :: rest =>
    (basicText .none (dropFirstLineEnd rest)).map fun (cs, rest) => (String.ofList cs, rest)
  | '\x27' :: '\x27' :: '\x27' :: rest =>
    (literalText (dropFirstLineEnd rest)).map fun (cs, rest) => (String.ofList cs, rest)
  | cs => lineString cs

end WebForm.Toml
