/-!
# Spans of characters

A character property is a table of *spans*: code points from `first` to `last` in steps of
`step`. The step keeps tables of cased letters short, since capital and small letters alternate
in most scripts that have both.
-/

set_option autoImplicit false

namespace WebForm.Text

/-- The code points `first`, `first + step`, … up to `last`. -/
structure Span where
  first : Nat
  last : Nat
  step : Nat
deriving DecidableEq, Repr

namespace Span

/-- Whether a code point lies on the span. -/
def has (s : Span) (n : Nat) : Bool :=
  s.first ≤ n && n ≤ s.last && (n - s.first) % s.step == 0

/-- The spans of single steps between pairs of bounds. -/
def ofPairs (pairs : List (Nat × Nat)) : List Span :=
  pairs.map fun (first, last) => ⟨first, last, 1⟩

end Span

/-- Whether a code point lies on one of the spans of a table. -/
def onSpans (table : List Span) (n : Nat) : Bool := table.any (·.has n)

@[simp] theorem onSpans_nil (n : Nat) : onSpans [] n = false := rfl

@[simp] theorem onSpans_cons (s : Span) (table : List Span) (n : Nat) :
    onSpans (s :: table) n = (s.has n || onSpans table n) := rfl

end WebForm.Text
