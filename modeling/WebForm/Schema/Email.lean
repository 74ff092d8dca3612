import WebForm.Number.Numeral
/-!
# E-mail addresses

The shape that an e-mail field accepts: a local part and a domain around one `@`. Letters count
without regard to case in the sense of simple case folding, so the long s and the Kelvin sign
pass for the letters that they fold to.
-/

set_option autoImplicit false

namespace WebForm.Schema

namespace Email

/-- A letter of an address. -/
def isLetter (c : Char) : Bool := c.isAlpha || c == 'ſ' || c.toNat == 0x212A

/-- A character of the local part other than the dot. -/
def isLocalChar (c : Char) : Bool :=
  isLetter c || Numeral.isDigit c || c == '_' || c == '\x27' || c == '+' || c == '-'

/-- A character that the local part may end in. -/
def isLocalEnd (c : Char) : Bool := isLocalChar c && c != '\x27'

/-- A local part, from behind a dot or from its start: no dot comes first, last or twice in a row,
and the last character is no apostrophe. -/
def isLocal : List Char → Bool
  | [] => false
  | [c] => isLocalEnd c
  | c :: '.' :: rest => isLocalChar c && isLocal rest
  | c :: rest => isLocalChar c && isLocal rest

/-- The pieces of a list between the occurrences of a character. -/
def pieces (separator : Char) : List Char → List (List Char)
  | [] => [[]]
  | c :: rest =>
    if c = separator then [] :: pieces separator rest
    else
      match pieces separator rest with
      | [] => [[c]]
      | first :: others => (c :: first) :: others

/-- There is always a first piece, if an empty one. -/
theorem pieces_ne_nil (separator : Char) (cs : List Char) : pieces separator cs ≠ [] := by
  cases cs with
  | nil => simp [pieces]
  | cons c rest =>
    unfold pieces
    split
    · simp
    · split <;> simp

/-- A label of the domain before the last: letters, digits and hyphens, the first one no hyphen. -/
def isLabel : List Char → Bool
  | [] => false
  | c :: rest =>
    (isLetter c || Numeral.isDigit c) &&
      rest.all fun d => isLetter d || Numeral.isDigit d || d == '-'

/-- The last label of the domain: two or more letters. -/
def isTopLabel (label : List Char) : Bool := 2 ≤ label.length && label.all isLetter

/-- A domain: labels between dots, at least one before the last. -/
def isDomain (cs : List Char) : Bool :=
  match (pieces '.' cs).reverse with
  | top :: label :: labels => isTopLabel top && isLabel label && labels.all isLabel
  | _ => false

end Email

/-- Whether a text has the shape of an e-mail address. -/
def isEmail (s : String) : Bool :=
  let cs := s.toList
  match cs.dropWhile (· != '@') with
  | [] => false
  | _ :: domain => Email.isLocal (cs.takeWhile (· != '@')) && Email.isDomain domain

end WebForm.Schema
