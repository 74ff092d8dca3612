import WebForm.Pattern.Property
import WebForm.Text.CaseTable
/-!
# Sets without regard to case

Simple case folding maps every letter to one representative, so that two letters agree up to case
exactly when their representatives are equal: `k`, `K` and the Kelvin sign, for instance. A set is
closed under case by adding the representatives of its members and then all letters that have one
of these as their representative.
-/

set_option autoImplicit false

namespace WebForm.Pattern

/-- The letters that are not their own representative, each with its representative, as far as
patterns know both. -/
def foldPairs : List (Nat × Nat) :=
  (Text.foldShifts.flatMap fun s =>
    (List.range ((s.span.last - s.span.first) / s.span.step + 1)).map fun i =>
      let n := s.span.first + i * s.span.step
      (n, (n + s.distance).toNat)).filter
    fun (n, target) => Property.known.hasCode n && Property.known.hasCode target

namespace CharSet

/-- Adds to a set the representatives of its members. -/
def withRepresentatives (s : CharSet) : CharSet :=
  s.union (ofCodes (foldPairs.filterMap fun (n, target) =>
    if s.hasCode n then some target else Option.none))

/-- Adds to a set the letters that have a member as their representative. -/
def withRepresented (s : CharSet) : CharSet :=
  s.union (ofCodes (foldPairs.filterMap fun (n, target) =>
    if s.hasCode target then some n else Option.none))

/-- All characters that agree up to case with a member of the set. -/
def folded (s : CharSet) : CharSet := s.withRepresentatives.withRepresented

/-- The set without regard to case, if asked for. -/
def foldedIf (caseless : Bool) (s : CharSet) : CharSet := if caseless then s.folded else s

@[simp] theorem foldedIf_false (s : CharSet) : foldedIf false s = s := rfl

@[simp] theorem foldedIf_true (s : CharSet) : foldedIf true s = s.folded := rfl

end CharSet

end WebForm.Pattern
