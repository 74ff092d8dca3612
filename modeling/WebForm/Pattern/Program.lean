import WebForm.Pattern.Reader
import WebForm.Pattern.Regular.Automaton
import WebForm.Pattern.Regular.Reader
import WebForm.Pattern.Regular.Weight
/-!
# Programs

A pattern that no automaton can follow becomes a program: a list of instructions, in which those
parts that automata can follow are single instructions. Such a part gives its preferred match and
no other one, so it is cut out only where nothing behind it in the same alternative could ask for
another match, or where all its matches take the same number of characters.

A program keeps numbers in slots: for every group where it starts and ends, for every counted
repetition its rounds, for every look-around where to come back to.
-/

set_option autoImplicit false

namespace WebForm.Pattern

/-- An instruction of a program. Targets are numbers of instructions. -/
inductive Instr where
  | done
  /-- Takes one character of a set. -/
  | char (s : CharSet)
  /-- Takes the given characters. -/
  | run (cs : List Char)
  | check (a : Anchor)
  /-- Takes what the automaton prefers. -/
  | regular (a : Automaton)
  /-- Goes on where a match of the automaton ends. -/
  | behind (a : Automaton)
  /-- Goes on at the first target, and at the second when that fails. -/
  | fork (first second : Nat)
  | jump (target : Nat)
  /-- Keeps the position in a slot. -/
  | save (slot : Nat)
  /-- Goes back to the position in a slot. -/
  | restore (slot : Nat)
  /-- Puts zero into a slot. -/
  | clear (slot : Nat)
  /-- Decides on another round, when rounds take characters or have a limit. -/
  | round (greedy : Bool) (least : Nat) (most : Option Nat) (exit slot : Nat)
  /-- Decides on another round, when rounds have no limit and may take no characters; `last` is the
  slot of the position of the last decision, where no other round is worth trying. -/
  | idleRound (greedy : Bool) (least exit slot last : Nat)
  /-- Goes back by some characters. -/
  | back (n : Nat)
  | backref (group : Nat) (caseless : Bool)
  | reached (group : Nat)
  | searchStart
  /-- Fails, together with all that has been put off since the look-around started. -/
  | failLook
  /-- Notes what has been put off so far. -/
  | enter
  /-- Forgets what has been put off since the last note. -/
  | commit

/-- A program. -/
structure Program where
  code : Array Instr
  slots : Nat

/-- Generating code: the number of slots given out is the state. -/
abbrev Coding := StateT Nat (Except PatternError)

namespace Regular

/-- Reads a regular expression whose automata keep to the size limit. -/
def ofText (text : List Char) : Except PatternError Regular := do
  let e ← read text
  if e.fits then return e else .error .tooLarge

end Regular

namespace Instr

/-- The instruction for a regular expression. -/
def ofRegular : Regular → Instr
  | .run cs => .run cs
  | .set s => .char s
  | e => .regular (.ofRegular e)

/-- The code of some expressions in a row that an automaton can follow. -/
def ofRow (es : List Expr) : Except PatternError (List Instr) :=
  if es.isEmpty then .ok []
  else
    match Expr.charactersOf? es with
    | some cs => .ok [.run cs]
    | none => do return [ofRegular (← Regular.ofText (es.flatMap (·.spelled .choice)))]

/-- Targets in order of preference. -/
def forkTo (first : Bool) (a b : Nat) : Instr := if first then .fork a b else .fork b a

end Instr

namespace Expr

/-- Gives out a slot. -/
def freshSlot : Coding Nat := do
  let slot ← get
  set (slot + 1)
  return slot

/-- Whether an automaton can follow the expression and all its matches take the same number of
characters. -/
def isRigid (wanted : List Nat) (e : Expr) : Bool := e.isRegular wanted && e.extent.fixed

/-- How many expressions of a row are cut out at its start and at its end. Where something behind
the row may ask for other matches, only rigid ones are. -/
def ends (wanted : List Nat) (strict : Bool) (es : List Expr) : Nat × Nat :=
  let first := (es.takeWhile (isRigid wanted)).length
  let last := (es.drop first).reverse.takeWhile
    fun e => if strict then e.isRigid wanted else e.isRegular wanted
  (first, last.length)

/-! ### Frames around code -/

/-- The code of a way to go on, given the number of its first instruction. -/
abbrev Way := Nat → Coding (List Instr)

/-- Either of two ways, rather the first. -/
def codeEither (a b : Way) : Way := fun start => do
  let first ← a (start + 1)
  let afterFirst := start + first.length + 2
  let second ← b afterFirst
  return .fork (start + 1) afterFirst :: first ++ .jump (afterFirst + second.length) :: second

/-- Rounds that are counted. -/
def codeCounted (greedy : Bool) (least : Nat) (most : Option Nat) (round : Way) : Way :=
  fun start => do
    let slot ← freshSlot
    let inner ← round (start + 2)
    return .clear slot :: .round greedy least most (start + inner.length + 3) slot :: inner ++
      [.jump (start + 1)]

/-- Rounds without a limit to their number, which may take no characters. -/
def codeIdle (greedy : Bool) (least : Nat) (round : Way) : Way := fun start => do
  let slot ← freshSlot
  let last ← freshSlot
  let inner ← round (start + 2)
  return .clear slot :: .idleRound greedy least (start + inner.length + 3) slot last :: inner ++
    [.jump (start + 1)]

/-- A repetition, where `mayIdle` tells whether a round may take no characters. -/
def codeTimes (greedy mayIdle : Bool) (least : Nat) (most : Option Nat) (round : Way) : Way :=
  fun start =>
    match least, most, mayIdle with
    | 0, some 1, _ => do
      let inner ← round (start + 1)
      return .forkTo greedy (start + 1) (start + inner.length + 1) :: inner
    | least, none, true => codeIdle greedy least round start
    | 0, none, false => do
      let inner ← round (start + 1)
      return .forkTo greedy (start + 1) (start + inner.length + 2) :: inner ++ [.jump start]
    | 1, none, false => do
      let inner ← round start
      return inner ++ [.forkTo greedy start (start + inner.length + 1)]
    | least, most, _ => codeCounted greedy least most round start

/-- A look-around: what it looks at is tried, and the position stays. -/
def codeLook (negative : Bool) (inner : Way) : Way := fun start =>
  if negative then do
    let inner ← inner (start + 1)
    return .fork (start + 1) (start + inner.length + 2) :: inner ++ [.failLook]
  else do
    let slot ← freshSlot
    let inner ← inner (start + 1)
    return .save slot :: inner ++ [.restore slot]

/-- What a look-around looks at. Behind, it starts as many characters back as its matches take; an
expression whose matches take different numbers of them is left to an automaton. -/
def codeLookedAt (wanted : List Nat) (ahead : Bool) (e : Expr) (inner : Way) : Way := fun start =>
  if ahead then inner start
  else if e.extent.fixed then do return .back e.extent.least :: (← inner (start + 1))
  else if e.isRegular wanted then do
    return [.behind (.ofRegular (← Regular.ofText (e.spelled .choice)))]
  else throw .variableLookBehind

/-- A condition with its two ways. Once it holds, the other way is given up; where it does not, its
note is left behind. -/
def codeCond (condition yes no : Way) : Way := fun start => do
  let condition ← condition (start + 2)
  let afterCondition := start + condition.length + 3
  let yes ← yes afterCondition
  let afterYes := afterCondition + yes.length + 1
  let no ← no afterYes
  return .enter :: .fork (start + 2) afterYes :: condition ++ .commit :: yes ++
    .jump (afterYes + no.length) :: no

/-! ### The code of expressions -/

mutual

/-- The code of an expression. What comes behind it may ask for other matches if it is `strict`. -/
def code (wanted : List Nat) (strict : Bool) (e : Expr) : Way := fun start =>
  if !strict && e.isRegular wanted then Instr.ofRow [e]
  else
    match e with
    | .empty | .matchStart => return []
    | .any breaks => return [.char (if breaks then .all else .compl (.single '\n'))]
    | .literal c caseless => Instr.ofRow [.literal c caseless]
    | .plain text caseless => Instr.ofRow [.plain text caseless]
    | .anchor a => return [.check a]
    | .cat es => do
      let (first, last) := ends wanted strict es
      let rigid ← Instr.ofRow (es.take first)
      let inner ← codeRow wanted first (es.length - first - last) es (start + rigid.length)
      let tail ← Instr.ofRow (es.drop (es.length - last))
      return rigid ++ inner ++ tail
    | .alt es => codeChoice wanted strict es start
    | .times e least most greedy =>
      let strict := if least = 0 ∧ most = some 1 then strict else strict || !e.isRegular wanted
      codeTimes greedy (e.extent.least == 0) least most (code wanted strict e) start
    | .group index e => do
      let inner ← code wanted strict e (start + 1)
      return .save (2 * index) :: inner ++ [.save (2 * index + 1)]
    | .backref index caseless _ => return [.backref index caseless]
    | .reached index => return [.reached index]
    | .cond condition yes no =>
      codeCond (code wanted strict condition) (code wanted strict yes) (code wanted strict no) start
    | .look false negative (.alt es) =>
      if (Expr.alt es).extent.fixed then
        codeLook negative (codeLookedAt wanted false (.alt es) (code wanted false (.alt es))) start
      else codeLooks wanted negative es start
    | .look ahead negative e =>
      codeLook negative (codeLookedAt wanted ahead e (code wanted false e)) start
    | .atomic e => do
      let inner ← code wanted false e (start + 1)
      return .enter :: inner ++ [.commit]
    | .searchStart => return [.searchStart]

/-- The code of some expressions of a row: `n` of them, behind the first `skipped` ones. -/
def codeRow (wanted : List Nat) (skipped n : Nat) (es : List Expr) : Way := fun start =>
  match skipped, n, es with
  | _, _, [] | 0, 0, _ => return []
  | skipped + 1, n, _ :: es => codeRow wanted skipped n es start
  | 0, n + 1, e :: es => do
    let first ← code wanted true e start
    let rest ← codeRow wanted 0 n es (start + first.length)
    return first ++ rest

/-- The code of alternatives. -/
def codeChoice (wanted : List Nat) (strict : Bool) (es : List Expr) : Way := fun start =>
  match es with
  | [] => return []
  | [e] => code wanted strict e start
  | e :: es => codeEither (code wanted strict e) (codeChoice wanted strict es) start

/-- The code of look-behinds at several alternatives: one of them has to hold, or all of them if
they are negative. -/
def codeLooks (wanted : List Nat) (negative : Bool) (es : List Expr) : Way := fun start =>
  match es with
  | [] => return []
  | e :: es =>
    let look := codeLook negative (codeLookedAt wanted false e (code wanted false e))
    if es.isEmpty then look start
    else if negative then do
      let first ← look start
      let rest ← codeLooks wanted negative es (start + first.length)
      return first ++ rest
    else codeEither look (codeLooks wanted negative es) start

end

end Expr

end WebForm.Pattern
