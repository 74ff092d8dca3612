import WebForm.Pattern.Property
/-!
# Anchors

An anchor is a condition on a position in a text: it takes no characters, but looks at what stands
on both sides.
-/

set_option autoImplicit false

namespace WebForm.Pattern

/-- A condition on a position in a text. -/
inductive Anchor where
  | textStart
  | textEnd
  | lineStart
  | lineEnd
  /-- Nothing but line breaks follows. -/
  | lastLineEnd
  | wordEdge
  | notWordEdge
  | wordStart
  | wordEnd
  /-- What stands before belongs to no word. -/
  | noWordBefore
  /-- What stands after belongs to no word. -/
  | noWordAfter
deriving DecidableEq, Repr

namespace Anchor

/-- The character before a position. -/
def before (text : Array Char) (i : Nat) : Option Char := if i = 0 then none else text[i - 1]?

/-- Whether there is a character, and it belongs to words. -/
def isWord (c : Option Char) : Bool := c.any Property.wordChar.has

/-- Whether there are only line breaks from a position on. -/
def onlyBreaksFrom (text : Array Char) (i : Nat) : Bool :=
  (text.extract i text.size).all (· == '\n')

/-- Whether a position satisfies the condition. -/
def holdsAt (a : Anchor) (text : Array Char) (i : Nat) : Bool :=
  match a with
  | .textStart => i == 0
  | .textEnd => text.size ≤ i
  | .lineStart => i == 0 || before text i == some '\n'
  | .lineEnd => text.size ≤ i || text[i]? == some '\n'
  | .lastLineEnd => onlyBreaksFrom text i
  | .wordEdge => isWord (before text i) != isWord text[i]?
  | .notWordEdge => isWord (before text i) == isWord text[i]?
  | .wordStart => !isWord (before text i) && isWord text[i]?
  | .wordEnd => isWord (before text i) && !isWord text[i]?
  | .noWordBefore => !isWord (before text i)
  | .noWordAfter => !isWord text[i]?

/-- Whether the condition is one of those of regular expressions, which look at the ends of the
text and of its lines only. -/
def isRegular : Anchor → Bool
  | .textStart | .textEnd | .lineStart | .lineEnd => true
  | _ => false

/-- Being at the edge of a word is the opposite of not being there. -/
theorem holdsAt_notWordEdge (text : Array Char) (i : Nat) :
    Anchor.notWordEdge.holdsAt text i = !Anchor.wordEdge.holdsAt text i := by
  simp only [holdsAt]
  cases isWord (before text i) <;> cases isWord text[i]? <;> rfl

end Anchor

end WebForm.Pattern
