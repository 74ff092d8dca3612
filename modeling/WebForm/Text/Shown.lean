import WebForm.Text.Category
/-!
# Quoting text in messages

A text that an error message quotes is written so that it shows in one line and unambiguously:
quotes, backslashes and line breaks are escaped, and so is, by its code point, every character
that does not show or that combines with the one before.
-/

set_option autoImplicit false

namespace WebForm.Text

/-- A character in a quoted text. -/
def showChar (c : Char) : List Char :=
  match c with
  | '"' => ['\\', '"']
  | '\\' => ['\\', '\\']
  | '\n' => ['\\', 'n']
  | '\r' => ['\\', 'r']
  | '\t' => ['\\', 't']
  | '\x00' => ['\\', '0']
  | c =>
    if isShown c && !isExtending c then [c]
    else ['\\', 'u', '\x7b'] ++ (Nat.toDigits 16 c.toNat) ++ ['\x7d']

/-- A text between quotes, as error messages show it. -/
def shown (s : String) : String := String.ofList ('"' :: s.toList.flatMap showChar ++ ['"'])

end WebForm.Text
