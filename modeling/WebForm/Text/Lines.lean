/-!
# Lines of a text

A line ends with a line feed, and a carriage return just before it belongs to the line end. What
stands after the last line feed is a line only if it is not empty.
-/

set_option autoImplicit false

namespace WebForm.Text

/-- A line, given in reverse, without the carriage return at its end. -/
def endLine : List Char → List Char
  | '\r' :: line => line.reverse
  | line => line.reverse

/-- Splits the rest of a text, where `line` holds the current line in reverse. -/
def linesFrom (line : List Char) : List Char → List (List Char)
  | [] => if line.isEmpty then [] else [line.reverse]
  | c :: rest => if c = '\n' then endLine line :: linesFrom [] rest else linesFrom (c :: line) rest

/-- The lines of a text, without their ends. -/
def lines (s : String) : List String := (linesFrom [] s.toList).map String.ofList

end WebForm.Text
