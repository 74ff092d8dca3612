import WebForm.Pattern.Anchor
/-!
# Regular expressions as trees

The part of a pattern that an automaton can follow: characters, sequences, alternatives,
repetitions, numbered groups and the anchors of texts and lines. Trees are built by functions that
put them into a plain form: sequences and alternatives are not nested, neighbouring characters are
one run, alternatives of single characters are a set, and what all alternatives start with stands
in front of them.
-/

set_option autoImplicit false

namespace WebForm.Pattern

/-- The tree of a regular expression. -/
inductive Regular where
  | empty
  /-- Characters in a row. -/
  | run (cs : List Char)
  /-- One character of a set. -/
  | set (s : CharSet)
  | anchor (a : Anchor)
  /-- At least `least` rounds, and at most `most` where that is given. -/
  | times (e : Regular) (least : Nat) (most : Option Nat) (greedy : Bool)
  | group (index : Nat) (e : Regular)
  | cat (a b : Regular)
  | alt (a b : Regular)
deriving DecidableEq, Repr

namespace Regular

/-! ## Views -/

/-- Whether every match takes characters. -/
def isConsuming : Regular → Bool
  | .empty | .anchor _ => false
  | .run cs => !cs.isEmpty
  | .set s => !s.isEmpty
  | .times e least _ _ => 0 < least && e.isConsuming
  | .group _ e => e.isConsuming
  | .cat a b => a.isConsuming || b.isConsuming
  | .alt a b => a.isConsuming && b.isConsuming

/-- Whether no match takes characters. -/
def isIdle : Regular → Bool
  | .empty | .anchor _ => true
  | .run cs => cs.isEmpty
  | .set _ => false
  | .times e _ _ _ => e.isIdle
  | .group _ e => e.isIdle
  | .cat a b | .alt a b => a.isIdle && b.isIdle

/-- What stands in a row. -/
def parts : Regular → List Regular
  | .empty => []
  | .cat a b => a.parts ++ b.parts
  | e => [e]

/-- What can stand here. -/
def alternatives : Regular → List Regular
  | .alt a b => a.alternatives ++ b.alternatives
  | e => [e]

/-- The characters in a row, if the expression is nothing else. -/
def run? : Regular → Option (List Char)
  | .run cs => some cs
  | _ => none

/-- The character, if the expression is a single one. -/
def single? : Regular → Option Char
  | .run [c] => some c
  | _ => none

/-- The set, if the expression is one. -/
def set? : Regular → Option CharSet
  | .set s => some s
  | _ => none

/-! ## Building -/

/-- One character of a set; a set of one character is that character. -/
def ofSet (s : CharSet) : Regular :=
  match s.only? with
  | some c => .run [c]
  | none => .set s

/-- A repetition. Of what takes no characters, one round is as good as more. -/
def repeated (e : Regular) (least : Nat) (most : Option Nat) (greedy : Bool) : Regular :=
  let (least, most) :=
    if e.isIdle then (min least 1, some (min (most.getD 1) 1)) else (least, most)
  if most = some 0 then .empty
  else if least = 1 && most = some 1 then e
  else .times e least most greedy

/-- Joins neighbouring runs. -/
def joinRuns : List Regular → List Regular
  | [] => []
  | .run cs :: rest =>
    match joinRuns rest with
    | .run ds :: more => .run (cs ++ ds) :: more
    | more => .run cs :: more
  | e :: rest => e :: joinRuns rest

/-- Expressions in a row, as one expression. -/
def chain : List Regular → Regular
  | [] => .empty
  | [e] => e
  | e :: rest => .cat e (chain rest)

/-- A sequence. -/
def sequence (es : List Regular) : Regular := chain (joinRuns (es.flatMap parts))

/-- Alternatives, as one expression. -/
def choice : List Regular → Regular
  | [] => .set .none
  | [e] => e
  | e :: rest => .alt e (choice rest)

/-- What two lists start with in common. -/
def commonStart : List Regular → List Regular → List Regular
  | a :: as, b :: bs => if a = b then a :: commonStart as bs else []
  | _, _ => []

/-- The sequences that some expressions are, if all of them are. -/
def sequences? (es : List Regular) : Option (List (List Regular)) :=
  es.mapM fun
    | .cat a b => some (Regular.cat a b).parts
    | _ => none

/-- What all alternatives start with, and what is left of each of them, if they are sequences with
a common start. -/
def splitStart? (es : List Regular) : Option (List Regular × List Regular) :=
  match sequences? es with
  | some (first :: second :: rest) =>
    let start := (second :: rest).foldl commonStart first
    if start.isEmpty then none
    else some (start, (first :: second :: rest).map fun parts => sequence (parts.drop start.length))
  | _ => none

/-- A choice between alternatives; `fuel` bounds how often a common start is taken out. -/
def oneOf : Nat → List Regular → Regular
  | fuel, es =>
    let es := es.flatMap alternatives
    match es with
    | [e] => e
    | _ =>
      match es.mapM single?, es.mapM set? with
      | some cs, _ => ofSet (.ofCodes (cs.map Char.toNat))
      | _, some sets => ofSet (.unions sets)
      | _, _ =>
        match fuel, splitStart? es with
        | fuel + 1, some (start, rest) => sequence (start ++ [oneOf fuel rest])
        | _, _ => choice es

/-- The number of parts of the longest of some expressions. -/
def longest (es : List Regular) : Nat := (es.map fun e => e.parts.length).foldl max 0

/-- A choice between alternatives. -/
def either (es : List Regular) : Regular := oneOf (longest es) es

/-! ## Lemmas -/

@[simp] theorem parts_empty : Regular.empty.parts = [] := rfl

@[simp] theorem parts_cat (a b : Regular) : (Regular.cat a b).parts = a.parts ++ b.parts := rfl

/-- The parts of a sequence of parts are these parts, if none of them is a sequence itself. -/
theorem parts_chain {es : List Regular} (h : ∀ e ∈ es, e.parts = [e]) : (chain es).parts = es := by
  induction es with
  | nil => rfl
  | cons e rest ih =>
    cases rest with
    | nil => exact h e (by simp)
    | cons d more =>
      simp [chain, h e (by simp), ih fun x hx => h x (by simp [hx])]

end Regular

end WebForm.Pattern
