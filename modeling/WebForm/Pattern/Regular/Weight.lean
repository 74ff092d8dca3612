import Std.Data.HashMap
import WebForm.Pattern.Regular.Basic
/-!
# The size of automata

A pattern is refused when its automaton would be too large, be it the one that reads the bytes of a
text forwards or the one that reads them backwards. The size is a number of bytes, to which every
state and every transition adds a fixed number, and follows from the tree: nothing is built to
learn it, so that a repetition counts as often as it repeats at no cost.

A set becomes the sequences of byte ranges that encode its members. Forwards, sequences share what
they start with and what they end with; backwards, they share what they end with in the order of
reading, that is, their first bytes.
-/

set_option autoImplicit false

namespace WebForm.Pattern.Regular

/-! ## Byte sequences -/

/-- Both ends of a range of bytes. -/
abbrev ByteRange := Nat × Nat

/-- The largest number that some continuation bytes can hold, six bits in each of them. -/
def lastOf : Nat → Nat
  | 0 => 0
  | n + 1 => lastOf n * 64 + 63

/-- Continuation bytes that range over all their values. -/
def fullBytes (n : Nat) : List ByteRange := List.replicate n (0x80, 0xBF)

/-- The byte sequences of a range of numbers, the first byte of which has `mark` added to it and
`n` continuation bytes follow. -/
def byteRuns : Nat → Nat → Nat → Nat → List (List ByteRange)
  | 0, mark, first, last => [[(mark + first, mark + last)]]
  | n + 1, mark, first, last =>
    let unit := lastOf (n + 1) + 1
    let (a, x) := (first / unit, first % unit)
    let (b, y) := (last / unit, last % unit)
    let byte (d : Nat) (tails : List (List ByteRange)) :=
      tails.map fun tail => (mark + d, mark + d) :: tail
    if a = b then byte a (byteRuns n 0x80 x y)
    else
      let low := if x = 0 then [] else byte a (byteRuns n 0x80 x (unit - 1))
      let high := if y = unit - 1 then [] else byte b (byteRuns n 0x80 0 y)
      let start := if x = 0 then a else a + 1
      let stop := if y = unit - 1 then b + 1 else b
      let middle :=
        if start < stop then [(mark + start, mark + (stop - 1)) :: fullBytes (n + 1)] else []
      low ++ middle ++ high

/-- The code points that take each number of bytes, with the mark of the first byte. -/
def encodings : List (Nat × Nat × Nat × Nat) :=
  [(0, 0, 0, 0x7F), (1, 0xC0, 0x80, 0x7FF), (2, 0xE0, 0x800, 0xFFFF), (3, 0xF0, 0x10000, 0x10FFFF)]

/-- The byte sequences of a set, in ascending order. -/
def byteSequences (s : CharSet) : List (List ByteRange) :=
  s.ranges.flatMap fun (first, last) =>
    encodings.flatMap fun (n, mark, least, most) =>
      let first := max first least
      let last := min last most
      if first ≤ last then byteRuns n mark first last else []

/-! ## Costs -/

/-- The sum of some costs. -/
def total (costs : List Nat) : Nat := costs.foldl (· + ·) 0

/-- A state. -/
def stateCost : Nat := 32

/-- A transition on a range of bytes. -/
def rangeCost : Nat := 8

/-- A transition without reading. -/
def forkCost : Nat := 4

/-- Groups the sequences that start with the same range and takes that range off. -/
def byFirst : List (List ByteRange) → List (ByteRange × List (List ByteRange))
  | [] => []
  | [] :: rest => byFirst rest
  | (r :: tail) :: rest =>
    match byFirst rest with
    | (q, tails) :: more =>
      if q = r then (r, tail :: tails) :: more else (r, [tail]) :: (q, tails) :: more
    | [] => [(r, [tail])]

/-- The states of an automaton of byte sequences, numbered by the transitions that they have. -/
abbrev SharedStates := Std.HashMap (List (ByteRange × Nat)) Nat

mutual

/-- The number of the state that reads some sequences of at most `n` bytes. -/
def sharedState (n : Nat) (sequences : List (List ByteRange)) (states : SharedStates) :
    Nat × SharedStates :=
  match n with
  | 0 => (0, states)
  | n + 1 =>
    let groups := byFirst sequences
    if groups.isEmpty then (0, states)
    else
      let (transitions, states) := sharedTransitions n groups states
      match states[transitions]? with
      | some number => (number, states)
      | none => (states.size + 1, states.insert transitions (states.size + 1))

/-- The transitions of such a state. -/
def sharedTransitions (n : Nat) (groups : List (ByteRange × List (List ByteRange)))
    (states : SharedStates) : List (ByteRange × Nat) × SharedStates :=
  match groups with
  | [] => ([], states)
  | (r, tails) :: rest =>
    let (next, states) := sharedState n tails states
    let (transitions, states) := sharedTransitions n rest states
    ((r, next) :: transitions, states)

end

/-- How many different starts some sequences of at most `n` bytes have. -/
def startCount : Nat → List (List ByteRange) → Nat
  | 0, _ => 0
  | n + 1, sequences =>
    total ((byFirst sequences).map fun (_, tails) => 1 + startCount n tails)

/-- The cost of a set. Sets of ASCII take two states. -/
def setCost (backwards : Bool) (s : CharSet) : Nat :=
  if s.isAscii then 2 * stateCost + rangeCost * s.ranges.length
  else
    let sequences := byteSequences s
    if backwards then
      2 * stateCost + forkCost * sequences.length + stateCost * startCount 4 sequences
    else
      let states := (sharedState 4 sequences ∅).2
      states.fold (fun cost transitions _ => cost + stateCost + rangeCost * transitions.length)
        stateCost

/-- Divides some strings at the empty ones, which end where the others go on. -/
def divideAtEnds : List (List Nat) → List (List (List Nat))
  | [] => [[]]
  | [] :: rest => [] :: divideAtEnds rest
  | s :: rest =>
    match divideAtEnds rest with
    | part :: parts => (s :: part) :: parts
    | [] => [[s]]

/-- The different bytes that some strings start with. -/
def firstBytes (strings : List (List Nat)) : List Nat := (strings.filterMap List.head?).eraseDups

/-- The cost of the state that reads the first byte of some strings. -/
def firstBytesCost (strings : List (List Nat)) : Nat :=
  match firstBytes strings with
  | [] => 0
  | [_] => stateCost + forkCost
  | firsts => stateCost + rangeCost * firsts.length + forkCost

/-- The cost of a choice between byte strings of at most `n` bytes, in order of preference. Strings
that start with the same byte share its state, as long as none ends between them. -/
def stringsCost : Nat → List (List Nat) → Nat
  | 0, _ => 0
  | n + 1, strings =>
    if strings.all (·.isEmpty) then 0
    else
      let parts := divideAtEnds strings
      let partCost (part : List (List Nat)) :=
        firstBytesCost part + total ((firstBytes part).map fun b =>
          stringsCost n ((part.filter (·.head? == some b)).map List.tail))
      stateCost + forkCost * (parts.length - 1) + total (parts.map partCost)

/-- The bytes of a run, in the order of reading. -/
def bytesOf (backwards : Bool) (cs : List Char) : List Nat :=
  let bytes := (String.ofList cs).toUTF8.toList.map UInt8.toNat
  if backwards then bytes.reverse else bytes

/-- The cost of a choice between runs. -/
def runsCost (backwards : Bool) (runs : List (List Char)) : Nat :=
  let strings := runs.map (bytesOf backwards)
  stateCost + stringsCost ((strings.map List.length).foldl max 0) strings

/-- The cost of a repetition of what costs `cost`. -/
def roundsCost (cost : Nat) (isConsuming : Bool) (least : Nat) (most : Option Nat) : Nat :=
  let round := stateCost + 2 * forkCost + cost
  match least, most with
  | 0, none => if isConsuming then round else round + 2 * stateCost + 2 * forkCost
  | n + 1, none => n * cost + round
  | 0, some 1 => round + stateCost
  | 0, some most => 2 * stateCost + most * round
  | n + 1, some most =>
    (n + 1) * cost + if most = n + 1 then 0 else stateCost + (most - (n + 1)) * round

/-- The cost of a tree, where `asNext` tells whether it stands behind another alternative. -/
def cost (backwards : Bool) : Bool → Regular → Nat
  | asNext, .alt a b =>
    match asNext, (Regular.alt a b).alternatives.mapM run? with
    | false, some runs => runsCost backwards runs
    | false, none => 2 * stateCost + forkCost + a.cost backwards false + b.cost backwards true
    | true, _ => forkCost + a.cost backwards false + b.cost backwards true
  | asNext, e =>
    (if asNext then forkCost else 0) + match e with
      | .empty | .anchor _ => stateCost
      | .run cs => stateCost * (bytesOf backwards cs).length
      | .set s => setCost backwards s
      | .times e least most _ => roundsCost (e.cost backwards false) e.isConsuming least most
      | .group _ e => (if backwards then 0 else 2 * stateCost) + e.cost backwards false
      | .cat a b => a.cost backwards false + b.cost backwards false
      | .alt _ _ => 0

/-- The limit of the size. -/
def sizeLimit : Nat := 0xA00000

/-- What every automaton has besides: a state for the end, and a loop that passes over the text in
front of a match; forwards also two states that note where the match starts and ends. -/
def frameCost (backwards : Bool) : Nat :=
  (if backwards then 4 else 6) * stateCost + rangeCost + 2 * forkCost

/-- Whether the automata of a tree keep to the limit. -/
def fits (e : Regular) : Bool :=
  [false, true].all fun backwards =>
    frameCost backwards + e.cost backwards false ≤ sizeLimit

end WebForm.Pattern.Regular
