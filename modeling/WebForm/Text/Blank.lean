/-!
# White space

The characters with the Unicode property `White_Space`, and trimming by that property. A text is
*blank* when it holds nothing else. Titles, names, labels and numerals typed into a form are all
judged by this one class, so it is defined once here: 25 characters, among them U+0085, U+00A0,
U+2028 and U+3000, and not the zero-width characters U+200B and U+FEFF.
-/

set_option autoImplicit false

namespace WebForm.Text

/-- The characters with the Unicode property `White_Space`. -/
def isSpace (c : Char) : Bool :=
  let n := c.toNat
  (0x09 ≤ n && n ≤ 0x0D) || n == 0x20 || n == 0x85 || n == 0xA0 || n == 0x1680 ||
    (0x2000 ≤ n && n ≤ 0x200A) || n == 0x2028 || n == 0x2029 || n == 0x202F || n == 0x205F ||
    n == 0x3000

/-- A text without any character other than white space. -/
def isBlank (s : String) : Bool := s.toList.all isSpace

/-- The characters without the white space at either end. -/
def trimChars (cs : List Char) : List Char :=
  ((cs.dropWhile isSpace).reverse.dropWhile isSpace).reverse

/-- The text without the white space at either end. -/
def trim (s : String) : String := String.ofList (trimChars s.toList)

@[simp] theorem isBlank_empty : isBlank "" = true := rfl

/-- Every character that the core library counts as white space is one here. -/
theorem isSpace_of_isWhitespace (c : Char) (h : c.isWhitespace = true) : isSpace c = true := by
  simp only [Char.isWhitespace, Bool.or_eq_true, decide_eq_true_eq] at h
  rcases h with ((rfl | rfl) | rfl) | rfl <;> rfl

end WebForm.Text
