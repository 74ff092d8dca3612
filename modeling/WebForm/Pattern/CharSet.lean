import WebForm.Text.Span
/-!
# Sets of characters

A set of characters is kept as the code points at which membership changes, in ascending order:
from the first of them on a code point is in the set, from the second on it is not, and so on.
Union, intersection, difference and complement are all one sweep over the bounds of two sets, and
two sets with the same members have the same bounds. Surrogates are in no set.
-/

set_option autoImplicit false

namespace WebForm.Pattern

/-- A set of characters, as the ascending code points at which membership changes. -/
structure CharSet where
  bounds : Array Nat
deriving DecidableEq, Repr

namespace CharSet

/-! ## Membership -/

/-- How many of the bounds before index `hi` are at most `n`, if those before index `lo` are and
those from `hi` on are not. -/
def rank (bounds : Array Nat) (n lo hi : Nat) : Nat :=
  if h : lo < hi then
    let mid := (lo + hi) / 2
    if bounds.getD mid 0 ≤ n then rank bounds n (mid + 1) hi else rank bounds n lo mid
  else lo
termination_by hi - lo
decreasing_by all_goals omega

/-- Whether a code point is in the set: an odd number of bounds lies at or below it. -/
def hasCode (s : CharSet) (n : Nat) : Bool := rank s.bounds n 0 s.bounds.size % 2 == 1

/-- Whether a character is in the set. -/
def has (s : CharSet) (c : Char) : Bool := s.hasCode c.toNat

/-! ## Sets from ranges -/

/-- The bounds of ascending ranges; ranges that touch become one. -/
def boundsOf : List (Nat × Nat) → List Nat
  | [] => []
  | (first, last) :: rest =>
    match boundsOf rest with
    | b :: bs => if b = last + 1 then first :: bs else first :: (last + 1) :: b :: bs
    | [] => [first, last + 1]

/-- The set of ascending ranges that do not overlap. -/
def ofAscending (ranges : List (Nat × Nat)) : CharSet := ⟨(boundsOf ranges).toArray⟩

/-- The set without members. -/
def none : CharSet := ⟨#[]⟩

/-- The set of all characters. -/
def all : CharSet := ofAscending [(0, 0xD7FF), (0xE000, 0x10FFFF)]

/-- The characters between two characters, with both. -/
def between (first last : Char) : CharSet :=
  if last < first then none
  else if first.toNat < 0xD800 && 0xDFFF < last.toNat then
    ofAscending [(first.toNat, 0xD7FF), (0xE000, last.toNat)]
  else ofAscending [(first.toNat, last.toNat)]

/-- The set of one character. -/
def single (c : Char) : CharSet := between c c

/-- The ranges of a table of spans. -/
def rangesOf (table : List Text.Span) : List (Nat × Nat) :=
  table.flatMap fun s =>
    if s.step = 1 then [(s.first, s.last)]
    else (List.range ((s.last - s.first) / s.step + 1)).map fun i =>
      (s.first + i * s.step, s.first + i * s.step)

/-- The set of an ascending table of spans. -/
def ofSpans (table : List Text.Span) : CharSet := ofAscending (rangesOf table)

/-- Ascending numbers without their repetitions. -/
def distinct : List Nat → List Nat
  | [] => []
  | n :: rest => if rest.head? = some n then distinct rest else n :: distinct rest

/-- The set of the characters at some code points. -/
def ofCodes (codes : List Nat) : CharSet :=
  ofAscending ((distinct (codes.mergeSort (· ≤ ·))).map fun n => (n, n))

/-! ## Operations -/

/-- Puts a bound in front of others where membership changes. -/
def changeAt (n : Nat) (before after : Bool) (rest : List Nat) : List Nat :=
  if before == after then rest else n :: rest

/-- The bounds of a combination of two sets from here on, where `a` and `b` tell whether here is
in the one and in the other. -/
def sweep (op : Bool → Bool → Bool) (a b : Bool) : List Nat → List Nat → List Nat
  | [], [] => []
  | x :: xs, [] => changeAt x (op a b) (op (!a) b) (sweep op (!a) b xs [])
  | [], y :: ys => changeAt y (op a b) (op a (!b)) (sweep op a (!b) [] ys)
  | x :: xs, y :: ys =>
    if x < y then changeAt x (op a b) (op (!a) b) (sweep op (!a) b xs (y :: ys))
    else if y < x then changeAt y (op a b) (op a (!b)) (sweep op a (!b) (x :: xs) ys)
    else changeAt x (op a b) (op (!a) (!b)) (sweep op (!a) (!b) xs ys)
termination_by xs ys => xs.length + ys.length

/-- The combination of two sets, member by member. -/
def combine (op : Bool → Bool → Bool) (s t : CharSet) : CharSet :=
  ⟨(sweep op false false s.bounds.toList t.bounds.toList).toArray⟩

/-- What is in one of two sets or in both. -/
def union (s t : CharSet) : CharSet := combine (· || ·) s t

/-- What is in both of two sets. -/
def inter (s t : CharSet) : CharSet := combine (· && ·) s t

/-- What is in the first of two sets but not in the second. -/
def diff (s t : CharSet) : CharSet := combine (fun a b => a && !b) s t

/-- What is in one of two sets but not in both. -/
def symmDiff (s t : CharSet) : CharSet := combine (fun a b => a != b) s t

/-- The characters that are not in the set. -/
def compl (s : CharSet) : CharSet := diff all s

/-- The complement of a set, if asked for. -/
def complIf (negated : Bool) (s : CharSet) : CharSet := if negated then s.compl else s

/-- The union of some sets. -/
def unions (sets : List CharSet) : CharSet := sets.foldl union none

/-! ## Views -/

/-- The ranges between bounds, both ends included. -/
def pairs : List Nat → List (Nat × Nat)
  | first :: next :: rest => (first, next - 1) :: pairs rest
  | _ => []

/-- The ranges of the set, in ascending order, with both ends. -/
def ranges (s : CharSet) : List (Nat × Nat) := pairs s.bounds.toList

/-- Whether the set has no members. -/
def isEmpty (s : CharSet) : Bool := s.bounds.isEmpty

/-- The member of a set that has only one. -/
def only? (s : CharSet) : Option Char :=
  match s.ranges with
  | [(first, last)] => if first = last then some (Char.ofNat first) else Option.none
  | _ => Option.none

/-- Whether all members are characters of ASCII. -/
def isAscii (s : CharSet) : Bool := s.ranges.all fun (_, last) => last < 0x80

/-! ## Lemmas -/

@[simp] theorem sweep_nil_nil (op : Bool → Bool → Bool) (a b : Bool) : sweep op a b [] [] = [] := by
  simp [sweep]

@[simp] theorem changeAt_same (n : Nat) (a : Bool) (rest : List Nat) :
    changeAt n a a rest = rest := by simp [changeAt]

@[simp] theorem hasCode_none (n : Nat) : none.hasCode n = false := by
  simp [hasCode, none, rank]

@[simp] theorem complIf_false (s : CharSet) : complIf false s = s := rfl

@[simp] theorem complIf_true (s : CharSet) : complIf true s = s.compl := rfl

end CharSet

end WebForm.Pattern
