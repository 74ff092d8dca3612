import WebForm.Pattern.Regular.Basic
/-!
# Automata

A regular expression as a nondeterministic automaton over the positions of a text, and what it
finds. The states reached at a position are kept in order of preference, each of them once, so a
search takes time in proportion to the text and to the number of states.

From a given position on, `preferredEnd?` finds the end of the match that the order of preference
asks for: greedy repetitions prefer more rounds, alternatives the left one. The other searches ask
only whether there is a match.
-/

set_option autoImplicit false

namespace WebForm.Pattern

/-- A state of an automaton. -/
inductive NfaState where
  /-- Goes on behind a character of a set. -/
  | read (s : CharSet) (next : Nat)
  /-- Goes on at either of two states, rather at the first. -/
  | fork (first second : Nat)
  /-- Goes on where a condition holds. -/
  | check (a : Anchor) (next : Nat)
  /-- Ends a match. -/
  | done

/-- An automaton: its states, by number, and the number of the first of them. -/
structure Automaton where
  states : Array NfaState
  start : Nat

namespace Automaton

/-! ## Construction -/

/-- A step of the construction: given the state that follows, adds states and tells the first. -/
abbrev Draft := Nat → Array NfaState → Nat × Array NfaState

namespace Draft

/-- One further state. -/
def state (make : Nat → NfaState) : Draft := fun next states =>
  (states.size, states.push (make next))

/-- Nothing. -/
def skip : Draft := fun next states => (next, states)

/-- One after the other. -/
def seq (a b : Draft) : Draft := fun next states =>
  let (middle, states) := b next states
  a middle states

/-- A run of characters. -/
def run : List Char → Draft
  | [] => skip
  | c :: cs => seq (state (.read (.single c))) (run cs)

/-- A choice between going one way and another. -/
def forkTo (first : Bool) (a b : Nat) : NfaState := if first then .fork a b else .fork b a

/-- A choice between two. -/
def either (a b : Draft) : Draft := fun next states =>
  let (first, states) := a next states
  let (second, states) := b next states
  (states.size, states.push (.fork first second))

/-- A fixed number of rounds. -/
def rounds (a : Draft) : Nat → Draft
  | 0 => skip
  | n + 1 => fun next states =>
    let (entry, states) := a next states
    rounds a n entry states

/-- Up to some number of rounds, each of which leads to `exit` as well. -/
def roundsUpTo (a : Draft) (greedy : Bool) (exit : Nat) : Nat → Draft
  | 0 => skip
  | n + 1 => fun next states =>
    let (entry, states) := a next states
    let fork := forkTo greedy entry exit
    roundsUpTo a greedy exit n states.size (states.push fork)

/-- Rounds without end; the first state is the one that decides on another round. -/
def loop (a : Draft) (greedy : Bool) (next : Nat) (states : Array NfaState) :
    Nat × Nat × Array NfaState :=
  let decision := states.size
  let (entry, states) := a decision (states.push .done)
  (decision, entry, states.setIfInBounds decision (forkTo greedy entry next))

/-- One or more rounds. -/
def oneOrMore (a : Draft) (greedy : Bool) : Draft := fun next states =>
  let (_, entry, states) := loop a greedy next states
  (entry, states)

/-- Any number of rounds. Rounds that may take no characters are tried once before the decision on
another one is made, so that the order of preference is kept. -/
def zeroOrMore (a : Draft) (isConsuming greedy : Bool) : Draft := fun next states =>
  let (decision, entry, states) := loop a greedy next states
  if isConsuming then (decision, states)
  else (states.size, states.push (forkTo greedy entry next))

/-- A repetition. -/
def times (a : Draft) (isConsuming : Bool) (least : Nat) (most : Option Nat) (greedy : Bool) :
    Draft :=
  match least, most with
  | 0, none => zeroOrMore a isConsuming greedy
  | n + 1, none => seq (rounds a n) (oneOrMore a greedy)
  | least, some most =>
    seq (rounds a least) fun next states => roundsUpTo a greedy next (most - least) next states

end Draft

/-- The construction of an expression. -/
def draft : Regular → Draft
  | .empty => .skip
  | .run cs => .run cs
  | .set s => .state (.read s)
  | .anchor a => .state (.check a)
  | .times e least most greedy => .times (draft e) e.isConsuming least most greedy
  | .group _ e => draft e
  | .cat a b => .seq (draft a) (draft b)
  | .alt a b => .either (draft a) (draft b)

/-- The automaton of an expression. -/
def ofRegular (e : Regular) : Automaton :=
  let (start, states) := draft e 0 #[.done]
  ⟨states, start⟩

/-! ## Search -/

/-- Follows all transitions that read nothing, from some states on, in order of preference.
`reachedAt` holds, for each state, the last position, plus one, at which it was reached; `reached`
are the states reached here that read or end a match, in reverse order. `fuel` is at least twice
the number of states and the number of the given ones together. -/
def follow (a : Automaton) (text : Array Char) (i : Nat) :
    Nat → List Nat → Array Nat → List Nat → List Nat × Array Nat
  | 0, _, reachedAt, reached => (reached.reverse, reachedAt)
  | _ + 1, [], reachedAt, reached => (reached.reverse, reachedAt)
  | fuel + 1, n :: rest, reachedAt, reached =>
    if reachedAt.getD n 0 = i + 1 then follow a text i fuel rest reachedAt reached
    else
      let reachedAt := reachedAt.setIfInBounds n (i + 1)
      match a.states.getD n .done with
      | .fork first second => follow a text i fuel (first :: second :: rest) reachedAt reached
      | .check condition next =>
        if condition.holdsAt text i then follow a text i fuel (next :: rest) reachedAt reached
        else follow a text i fuel rest reachedAt reached
      | .read _ _ | .done => follow a text i fuel rest reachedAt (n :: reached)

/-- The states that are reached at a position, in order of preference. -/
def closure (a : Automaton) (text : Array Char) (i : Nat) (entries : List Nat)
    (reachedAt : Array Nat) : List Nat × Array Nat :=
  follow a text i (2 * a.states.size + entries.length + 1) entries reachedAt []

/-- Whether a state ends a match. -/
def isDone (a : Automaton) (n : Nat) : Bool :=
  match a.states.getD n .done with
  | .done => true
  | _ => false

/-- The states behind a character. -/
def step (a : Automaton) (c : Char) (reached : List Nat) : List Nat :=
  reached.filterMap fun n =>
    match a.states.getD n .done with
    | .read s next => if s.has c then some next else none
    | _ => none

/-- No state has been reached anywhere. -/
def unreached (a : Automaton) : Array Nat := Array.replicate a.states.size 0

/-- The end of the preferred match that starts with some states at a position; `left` is the
number of characters from there on, and `best` what was found before. -/
def preferredFrom (a : Automaton) (text : Array Char) :
    Nat → Nat → List Nat → Array Nat → Option Nat → Option Nat
  | left, i, entries, reachedAt, best =>
    let (reached, reachedAt) := closure a text i entries reachedAt
    let preferred := reached.takeWhile (!a.isDone ·)
    let best := if preferred.length < reached.length then some i else best
    match left, text[i]? with
    | left + 1, some c =>
      match a.step c preferred with
      | [] => best
      | entries => preferredFrom a text left (i + 1) entries reachedAt best
    | _, _ => best

/-- The end of the preferred match that starts at a position. -/
def preferredEnd? (a : Automaton) (text : Array Char) (i : Nat) : Option Nat :=
  preferredFrom a text (text.size - i) i [a.start] a.unreached none

/-- Whether a match that starts at some position from here on satisfies a condition on its end, or
one that has reached some states here. -/
def existsFrom (a : Automaton) (text : Array Char) (isEnd : Nat → Bool) :
    Nat → Nat → List Nat → Array Nat → Bool
  | left, i, entries, reachedAt =>
    let (reached, reachedAt) := closure a text i (entries ++ [a.start]) reachedAt
    if isEnd i && reached.any a.isDone then true
    else
      match left, text[i]? with
      | left + 1, some c => existsFrom a text isEnd left (i + 1) (a.step c reached) reachedAt
      | _, _ => false

/-- Whether there is a match somewhere in a text. -/
def occursIn (a : Automaton) (text : Array Char) : Bool :=
  existsFrom a text (fun _ => true) text.size 0 [] a.unreached

/-- Whether there is a match that ends at a position. -/
def endsAt (a : Automaton) (text : Array Char) (i : Nat) : Bool :=
  existsFrom a text (· == i) i 0 [] a.unreached

end Automaton

end WebForm.Pattern
