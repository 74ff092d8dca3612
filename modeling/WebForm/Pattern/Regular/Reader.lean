import WebForm.Number.Numeral
import WebForm.Pattern.Regular.Basic
import WebForm.Pattern.Regular.Class
/-!
# Reading regular expressions

From the text of a regular expression to its tree. The dialect is the plain one of automata:
sequences, alternatives, repetitions, numbered groups, groups with flags for what is in them,
classes, and the anchors of texts and lines. Every reader gives back what it leaves of the text.
-/

set_option autoImplicit false

namespace WebForm.Pattern.Regular

/-- The flags in effect. -/
structure Mode where
  caseless : Bool := false
  multiline : Bool := false
  dotAll : Bool := false
  swapGreed : Bool := false

/-- A tree with the height of what it was read from. -/
structure Grown where
  expr : Regular
  height : Nat

/-- The result of reading a tree. -/
abbrev GrownReading := Except PatternError (Grown × List Char)

namespace Grown

/-- A tree without parts. -/
def leaf (e : Regular) : Grown := ⟨e, 0⟩

/-- The height of the highest of some trees. -/
def highest (trees : List Grown) : Nat := (trees.map height).foldl max 0

/-- A sequence of trees. -/
def sequence : List Grown → Grown
  | [tree] => tree
  | trees => ⟨.sequence (trees.map expr), if trees.isEmpty then 0 else highest trees + 1⟩

/-- A choice between trees. -/
def either : List Grown → Grown
  | [tree] => tree
  | trees => ⟨.either (trees.map expr), highest trees + 1⟩

end Grown

/-- Reads the flags of a group up to the colon behind them. -/
def Mode.read (mode : Mode) (off : Bool) : List Char → Except PatternError (Mode × List Char)
  | ':' :: rest => .ok (mode, rest)
  | 'i' :: rest => Mode.read { mode with caseless := !off } off rest
  | 'm' :: rest => Mode.read { mode with multiline := !off } off rest
  | 's' :: rest => Mode.read { mode with dotAll := !off } off rest
  | 'U' :: rest => Mode.read { mode with swapGreed := !off } off rest
  | '-' :: rest => if off then .error .unknownFlag else Mode.read mode true rest
  | _ => .error .unknownFlag

/-- The number of rounds that some digits stand for; it has to be below 2^32. -/
def rounds (digits : List Char) : Except PatternError Nat :=
  let n := Numeral.ofDigits digits
  if digits.isEmpty || 0x100000000 ≤ n then .error .badRepetition else .ok n

/-- Reads a count behind its opening brace. -/
def readCount (cs : List Char) : Except PatternError (Nat × Option Nat × List Char) := do
  let digits := cs.takeWhile Numeral.isDigit
  let least ← rounds digits
  match cs.drop digits.length with
  | '\x7d' :: rest => return (least, some least, rest)
  | ',' :: '\x7d' :: rest => return (least, none, rest)
  | ',' :: rest => do
    let digits := rest.takeWhile Numeral.isDigit
    let most ← rounds digits
    match rest.drop digits.length with
    | '\x7d' :: rest =>
      if most < least then .error .badRepetition else return (least, some most, rest)
    | _ => .error .badRepetition
  | _ => .error .badRepetition

/-- Reads the repetition that starts here, if one does. -/
def readSuffix? (cs : List Char) : Except PatternError (Option (Nat × Option Nat × List Char)) :=
  match cs with
  | '?' :: rest => .ok (some (0, some 1, rest))
  | '*' :: rest => .ok (some (0, none, rest))
  | '+' :: rest => .ok (some (1, none, rest))
  | '\x7b' :: rest => some <$> readCount rest
  | _ => .ok none

/-- Reads the repetitions behind a tree; `fuel` is at least the length of the text. -/
def readSuffixes (mode : Mode) : Nat → Grown → List Char → GrownReading
  | 0, tree, cs => .ok (tree, cs)
  | fuel + 1, tree, cs => do
    match ← readSuffix? cs with
    | none => return (tree, cs)
    | some (least, most, rest) =>
      let (lazily, rest) := match rest with
        | '?' :: rest => (true, rest)
        | _ => (false, rest)
      let expr := Regular.repeated tree.expr least most (lazily == mode.swapGreed)
      readSuffixes mode fuel ⟨expr, tree.height + 1⟩ rest

/-- The expression of an atom of a class outside of brackets. -/
def ofAtom (mode : Mode) : ClassAtom → Regular
  | .char c => ofSet (.foldedIf mode.caseless (.single c))
  | .set s => ofSet s

/-- Every character, without the line break unless asked for. -/
def dot (breaks : Bool) : Regular := ofSet (if breaks then .all else .compl (.single '\n'))

/-- Closes a group. -/
def closeGroup : List Char → Except PatternError (List Char)
  | ')' :: rest => .ok rest
  | _ => .error .unclosedGroup

mutual

/-- Reads alternatives. -/
def readChoice (mode : Mode) : Nat → List Grown → List Char → GrownReading
  | 0, _, _ => .error .tooDeep
  | fuel + 1, before, cs => do
    let (next, rest) ← readSequence mode fuel [] cs
    match rest with
    | '|' :: rest => readChoice mode fuel (next :: before) rest
    | rest => return (.either (next :: before).reverse, rest)

/-- Reads what stands in a row. -/
def readSequence (mode : Mode) : Nat → List Grown → List Char → GrownReading
  | 0, _, _ => .error .tooDeep
  | fuel + 1, before, cs =>
    match cs with
    | [] | '|' :: _ | ')' :: _ => .ok (.sequence before.reverse, cs)
    | cs => do
      let (tree, rest) ← readAtom mode fuel cs
      let (tree, rest) ← readSuffixes mode rest.length tree rest
      readSequence mode fuel (tree :: before) rest

/-- Reads what a repetition can follow. -/
def readAtom (mode : Mode) : Nat → List Char → GrownReading
  | 0, _ => .error .tooDeep
  | fuel + 1, cs =>
    match cs with
    | [] => .error .nothingToRepeat
    | '(' :: '?' :: rest => do
      let (inside, rest) ← mode.read false rest
      let (tree, rest) ← readChoice inside fuel [] rest
      return (⟨tree.expr, tree.height + 1⟩, ← closeGroup rest)
    | '(' :: rest => do
      let (tree, after) ← readChoice mode fuel [] rest
      return (⟨.group rest.length tree.expr, tree.height + 1⟩, ← closeGroup after)
    | '[' :: rest => do
      let (found, rest) ← readClass mode.caseless rest
      return (⟨ofSet found.set, found.height + 1⟩, rest)
    | '\\' :: rest => do
      let (atom, rest) ← ClassAtom.ofEscape mode.caseless rest
      return (.leaf (ofAtom mode atom), rest)
    | '.' :: rest => .ok (.leaf (dot mode.dotAll), rest)
    | '^' :: rest => .ok (.leaf (.anchor (if mode.multiline then .lineStart else .textStart)), rest)
    | '$' :: rest => .ok (.leaf (.anchor (if mode.multiline then .lineEnd else .textEnd)), rest)
    | '?' :: _ | '*' :: _ | '+' :: _ | '\x7b' :: _ => .error .nothingToRepeat
    | c :: rest => .ok (.leaf (ofAtom mode (.char c)), rest)

end

/-- Parts may nest this deep. -/
def maxHeight : Nat := 250

/-- The tree of a regular expression. -/
def read (cs : List Char) : Except PatternError Regular := do
  let (tree, rest) ← readChoice {} (4 * cs.length + 4) [] cs
  if !rest.isEmpty then .error .unopenedGroup
  else if maxHeight < tree.height then .error .tooDeep
  else return tree.expr

end WebForm.Pattern.Regular
