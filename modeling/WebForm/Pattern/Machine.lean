import WebForm.Pattern.Program
/-!
# Running programs

A program runs by trying: where there are several ways to go on, it takes the first and puts the
others off; where it fails, it takes up what it put off last. A *branch* is all that is needed to
go on: the next instruction, the position in the text, the slots, and the notes of how much had
been put off when atomic groups were entered.

A run is given up, as if there were no match, when it has failed too often or has put off too much.
-/

set_option autoImplicit false

namespace WebForm.Pattern

/-- A way to go on with a run. -/
structure Branch where
  /-- The number of the next instruction. -/
  next : Nat
  /-- The position in the text. -/
  position : Nat
  slots : Array (Option Nat)
  notes : List Nat

/-- What an instruction leads to. -/
inductive Outcome where
  | go (b : Branch)
  /-- Goes on with one branch and puts another one off. -/
  | fork (b other : Branch)
  /-- Goes on, with only so many branches put off as are given. -/
  | commit (b : Branch) (kept : Nat)
  | fail
  /-- Fails, and gives up what has been put off since a branch with the given instruction, that
  branch included. -/
  | failPast (next : Nat)
  | matched

namespace Branch

/-- The same branch at another instruction. -/
def goto (b : Branch) (next : Nat) : Branch := { b with next := next }

/-- The same branch at the next instruction and another position. -/
def moveTo (b : Branch) (i : Nat) : Branch := { b with next := b.next + 1, position := i }

/-- The value of a slot. -/
def slot (b : Branch) (n : Nat) : Option Nat := b.slots.getD n none

/-- The same branch at the next instruction, with a value in a slot. -/
def put (b : Branch) (n value : Nat) : Branch :=
  { b with next := b.next + 1, slots := b.slots.setIfInBounds n (some value) }

end Branch

/-! ## References -/

/-- Whether two texts are equal but for the case of ASCII letters. -/
def sameAscii (as bs : List Char) : Bool :=
  as.length == bs.length && (as.zip bs).all fun (a, b) =>
    a.toNat < 0x80 && b.toNat < 0x80 && a.toLower == b.toLower

/-- Whether a text starts with characters that agree with others up to case. -/
def startsFolded : List Char → List Char → Bool
  | [], _ => true
  | _ :: _, [] => false
  | c :: cs, d :: ds => (CharSet.single c).folded.has d && startsFolded cs ds

/-- Whether some characters agree up to case with others somewhere in a text. -/
def occursFolded (cs : List Char) : List Char → Bool
  | [] => cs.isEmpty
  | d :: ds => startsFolded cs (d :: ds) || occursFolded cs ds

/-- The characters that take a given number of bytes, if some do. -/
def takeBytes : Nat → List Char → Option (List Char)
  | 0, _ => some []
  | _ + 1, [] => none
  | n, c :: cs => if c.utf8Size ≤ n then (takeBytes (n - c.utf8Size) cs).map (c :: ·) else none

/-- How many characters a reference takes from a text. Without regard to case, it compares as many
bytes as those that are referred to take, and it is enough that these occur in them. -/
def referenceLength? (caseless : Bool) (referred text : List Char) : Option Nat :=
  if caseless then
    let bytes := (referred.map Char.utf8Size).foldl (· + ·) 0
    match takeBytes bytes text with
    | some window =>
      if referred == window || sameAscii referred window || occursFolded referred window then
        some window.length
      else none
    | none => none
  else if referred.isPrefixOf text then some referred.length
  else none

/-! ## Instructions -/

namespace Instr

/-- Decides on another round of a repetition: the branch into it, and the branch out of it. -/
def decide (greedy : Bool) (into out : Branch) : Outcome :=
  if greedy then .fork into out else .fork out into

/-- What an instruction leads to, when `height` branches have been put off. -/
def step (text : Array Char) (height : Nat) (b : Branch) : Instr → Outcome
  | .done => .matched
  | .char s =>
    match text[b.position]? with
    | some c => if s.has c then .go (b.moveTo (b.position + 1)) else .fail
    | none => .fail
  | .run cs =>
    if cs.isPrefixOf (text.extract b.position (b.position + cs.length)).toList then
      .go (b.moveTo (b.position + cs.length))
    else .fail
  | .check a => if a.holdsAt text b.position then .go (b.moveTo b.position) else .fail
  | .regular a =>
    match a.preferredEnd? text b.position with
    | some i => .go (b.moveTo i)
    | none => .fail
  | .behind a => if a.endsAt text b.position then .go (b.moveTo b.position) else .fail
  | .fork first second => .fork (b.goto first) (b.goto second)
  | .jump target => .go (b.goto target)
  | .save slot => .go (b.put slot b.position)
  | .restore slot => .go (b.moveTo ((b.slot slot).getD 0))
  | .clear slot => .go (b.put slot 0)
  | .round greedy least most exit slot =>
    let count := (b.slot slot).getD 0
    if most = some count then .go (b.goto exit)
    else
      let into := b.put slot (count + 1)
      if count < least then .go into else decide greedy into (into.goto exit)
  | .idleRound greedy least exit slot last =>
    let count := (b.slot slot).getD 0
    if 0 < count && b.slot last == some b.position then .go (b.goto exit)
    else
      let into := b.put slot (count + 1)
      if count < least then .go into
      else
        let into := { into with slots := into.slots.setIfInBounds last (some b.position) }
        decide greedy into (into.goto exit)
  | .back n => if n ≤ b.position then .go (b.moveTo (b.position - n)) else .fail
  | .backref group caseless =>
    match b.slot (2 * group), b.slot (2 * group + 1) with
    | some first, some last =>
      if last < first then .fail
      else
        match referenceLength? caseless (text.extract first last).toList
            (text.extract b.position text.size).toList with
        | some n => .go (b.moveTo (b.position + n))
        | none => .fail
    | _, _ => .fail
  | .reached group => if (b.slot (2 * group)).isSome then .go (b.moveTo b.position) else .fail
  | .searchStart => if b.position = 0 then .go (b.moveTo 0) else .fail
  | .failLook => .failPast (b.next + 1)
  | .enter => .go { b.moveTo b.position with notes := height :: b.notes }
  | .commit => .commit { b.moveTo b.position with notes := b.notes.drop 1 } (b.notes.headD height)

end Instr

/-! ## Runs -/

/-- The state of a run: the branch it follows, the branches that have been put off, their number,
and how often the run has failed. -/
structure Run where
  branch : Branch
  others : List Branch := []
  height : Nat := 0
  failures : Nat := 0

namespace Run

/-- A run may fail this often. -/
def maxFailures : Nat := 1000000

/-- A run may put off this many branches. -/
def maxHeight : Nat := 1000000

/-- The same run along another branch. -/
def follow (r : Run) (b : Branch) : Run := { r with branch := b }

/-- Gives up branches up to one with the given instruction, that one included. -/
def dropPast (next : Nat) : Nat → List Branch → Nat × List Branch
  | height, [] => (height, [])
  | height, b :: rest =>
    if b.next = next then (height - 1, rest) else dropPast next (height - 1) rest

/-- Takes up what was put off last; or tells that there is no match. -/
def resume (r : Run) : Except Bool Run :=
  match r.others with
  | [] => .error false
  | b :: others =>
    if maxFailures ≤ r.failures then .error false
    else .ok ⟨b, others, r.height - 1, r.failures + 1⟩

/-- The run after another instruction; or whether there is a match. -/
def advance (r : Run) : Outcome → Except Bool Run
  | .go b => .ok (r.follow b)
  | .fork b other =>
    if maxHeight ≤ r.height then .error false
    else .ok { r with branch := b, others := other :: r.others, height := r.height + 1 }
  | .commit b kept =>
    .ok { r with branch := b, others := r.others.drop (r.height - kept),
                 height := min kept r.height }
  | .fail => r.resume
  | .failPast next =>
    let (height, others) := dropPast next r.height r.others
    { r with others := others, height := height }.resume
  | .matched => .error true

end Run

namespace Program

/-- The number of steps after which a run is given up; the other limits are met long before, unless
a repetition asks for as many rounds. -/
def maxSteps : Nat := 0x10000000000

/-- Whether a run finds a match within some steps. -/
def finds (p : Program) (text : Array Char) : Nat → Run → Bool
  | 0, _ => false
  | steps + 1, r =>
    match r.advance (Instr.step text r.height r.branch (p.code.getD r.branch.next .done)) with
    | .ok r => finds p text steps r
    | .error found => found

/-- Whether a program finds a match somewhere in a text. -/
def occursIn (p : Program) (text : Array Char) : Bool :=
  p.finds text maxSteps { branch := ⟨0, 0, Array.replicate p.slots none, []⟩ }

/-- Passes over the text in front of a match. -/
def search : List Instr := [.fork 3 1, .char .all, .jump 0]

/-- The program of an expression with a number of groups, where something refers to the groups
`wanted`. -/
def ofExpr (groups : Nat) (wanted : List Nat) (e : Expr) : Except PatternError Program := do
  let front := if e.startsAtText then [] else search
  let (code, slots) ← (e.code wanted false front.length).run (2 * groups + 2)
  return ⟨(front ++ code ++ [Instr.done]).toArray, slots⟩

end Program

end WebForm.Pattern
