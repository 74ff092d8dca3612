import WebForm.Text.CaseTable
import WebForm.Text.Category
/-!
# Lower case

Full lower-casing of text. Most characters have a small form that is one character. U+0130 has
two (`i` and a dot above), and the capital sigma has two small forms: the final one where it ends
a word, that is, where a cased letter stands before it and none after, passing over marks and
punctuation inside words on both sides.
-/

set_option autoImplicit false

namespace WebForm.Text

/-- The image of a code point under the first shift that moves it. -/
def shifted (table : List Shift) (n : Nat) : Nat := (table.findSome? (·.image? n)).getD n

/-- Characters that have a case. -/
def isCased (c : Char) : Bool :=
  if c.toNat < 0x80 then c.isAlpha
  else
    Category.Lu.has c || Category.Ll.has c || Category.Lt.has c ||
      onSpans Trait.otherLowercase c.toNat || onSpans Trait.otherUppercase c.toNat

/-- Characters that a search for the neighbouring letter passes over: marks, format characters,
modifiers and the punctuation inside words. -/
def isCaseIgnorable (c : Char) : Bool :=
  onSpans Trait.wordInner c.toNat ||
    ([.Mn, .Me, .Cf, .Lm, .Sk] : List Category).any (·.has c)

/-- Whether the nearest character that is not passed over has a case. -/
def nextIsCased (cs : List Char) : Bool :=
  match cs.dropWhile isCaseIgnorable with
  | [] => false
  | c :: _ => isCased c

/-- The small form of a character that does not depend on its neighbours. -/
def lowerChar (c : Char) : List Char :=
  if c == 'İ' then ['i', '\u0307'] else [Char.ofNat (shifted smallShifts c.toNat)]

/-- Lower-cases the characters after those of `before`, which are in reverse order. -/
def lowerFrom (before : List Char) : List Char → List Char
  | [] => []
  | c :: rest =>
    (if c == 'Σ' then [if nextIsCased before && !nextIsCased rest then 'ς' else 'σ']
      else lowerChar c) ++ lowerFrom (c :: before) rest

/-- The text in lower case. -/
def lower (s : String) : String := String.ofList (lowerFrom [] s.toList)

end WebForm.Text
