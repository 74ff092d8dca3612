import WebForm.Pattern.Anchor
/-!
# Patterns as trees

The tree of a pattern, and what can be told from it without a text: whether an automaton can follow
it, and how many characters its matches take.

What an automaton cannot follow are references to groups and conditions on them, look-around,
atomic groups, the edges of words, and groups that something refers to. Classes and properties are
kept as they are written.
-/

set_option autoImplicit false

namespace WebForm.Pattern

/-- How many characters the matches take: the least number, and whether it is that of all. -/
structure Extent where
  least : Nat
  fixed : Bool
deriving DecidableEq, Repr

/-- The tree of a pattern. -/
inductive Expr where
  | empty
  /-- Any character, but a line break only if `breaks` says so. -/
  | any (breaks : Bool)
  | literal (c : Char) (caseless : Bool)
  /-- A class or a property, as it is written. -/
  | plain (text : List Char) (caseless : Bool)
  | anchor (a : Anchor)
  | cat (es : List Expr)
  | alt (es : List Expr)
  /-- At least `least` rounds, and at most `most` where that is given. -/
  | times (e : Expr) (least : Nat) (most : Option Nat) (greedy : Bool)
  | group (index : Nat) (e : Expr)
  /-- The text of a group, whose extent is given. -/
  | backref (index : Nat) (caseless : Bool) (extent : Extent)
  /-- Whether a group has been reached. -/
  | reached (index : Nat)
  /-- One of two ways, as a condition says. -/
  | cond (condition yes no : Expr)
  | look (ahead negative : Bool) (e : Expr)
  /-- The preferred match only. -/
  | atomic (e : Expr)
  /-- Where the match is taken to start; this is no condition on the text. -/
  | matchStart
  /-- Where the search has started. -/
  | searchStart

namespace Extent

/-- Takes no characters. -/
def zero : Extent := ⟨0, true⟩

/-- Takes one character. -/
def one : Extent := ⟨1, true⟩

/-- One after the other. -/
def add (a b : Extent) : Extent := ⟨a.least + b.least, a.fixed && b.fixed⟩

/-- Either of two. -/
def or (a b : Extent) : Extent :=
  ⟨min a.least b.least, a.fixed && b.fixed && a.least == b.least⟩

/-- A number of rounds. -/
def times (a : Extent) (least : Nat) (most : Option Nat) : Extent :=
  ⟨a.least * least, a.fixed && most == some least⟩

/-- Behind a condition, either of two: the second way does without the condition. -/
def cond (condition yes no : Extent) : Extent :=
  ⟨condition.least + min yes.least no.least,
    condition.fixed && yes.fixed && no.fixed && condition.least + yes.least == no.least⟩

end Extent

namespace Expr

mutual

/-- How many characters the matches take. -/
def extent : Expr → Extent
  | .any _ | .literal _ _ | .plain _ _ => .one
  | .empty | .anchor _ | .reached _ | .look _ _ _ | .matchStart | .searchStart => .zero
  | .cat es => extentOfRow es
  | .alt es => extentOfChoice es
  | .times e least most _ => e.extent.times least most
  | .group _ e | .atomic e => e.extent
  | .backref _ _ extent => extent
  | .cond condition yes no => .cond condition.extent yes.extent no.extent

/-- How many characters the matches of some expressions in a row take. -/
def extentOfRow : List Expr → Extent
  | [] => .zero
  | e :: es => e.extent.add (extentOfRow es)

/-- How many characters the matches of any of some expressions take. -/
def extentOfChoice : List Expr → Extent
  | [] => .zero
  | [e] => e.extent
  | e :: es => e.extent.or (extentOfChoice es)

end

mutual

/-- Whether an automaton can follow the expression, where something refers to the groups
`wanted`. -/
def isRegular (wanted : List Nat) : Expr → Bool
  | .empty | .any _ | .literal _ _ | .plain _ _ => true
  | .anchor a => a.isRegular
  | .cat es | .alt es => areRegular wanted es
  | .times e _ _ _ => e.isRegular wanted
  | .group index e => !wanted.contains index && e.isRegular wanted
  | .backref _ _ _ | .reached _ | .cond _ _ _ | .look _ _ _ | .atomic _ | .matchStart
  | .searchStart => false

/-- Whether an automaton can follow all of some expressions. -/
def areRegular (wanted : List Nat) : List Expr → Bool
  | [] => true
  | e :: es => e.isRegular wanted && areRegular wanted es

end

mutual

/-- The characters of an expression that consists of plain ones only. -/
def characters? : Expr → Option (List Char)
  | .literal c false => some [c]
  | .cat es => charactersOf? es
  | _ => none

/-- The characters of some such expressions in a row. -/
def charactersOf? : List Expr → Option (List Char)
  | [] => some []
  | e :: es => do return (← e.characters?) ++ (← charactersOf? es)

end

/-- Whether a repetition can follow the expression. -/
def isRepeatable : Expr → Bool
  | .empty | .look _ _ _ => false
  | _ => true

/-- Expressions in a row, as one. -/
def row : List Expr → Expr
  | [] => .empty
  | [e] => e
  | es => .cat es

/-- Whether the expression can only match at the start of a text. -/
def startsAtText : Expr → Bool
  | .anchor .textStart | .cat (.anchor .textStart :: _) => true
  | _ => false

/-- A look-ahead at the very end need not be one: what it looks at may as well be taken, since
nothing comes after it. -/
def withoutLastLook : Expr → Expr
  | .cat es =>
    match es.getLast? with
    | some (.look true false e) => .cat [.group 0 (.cat es.dropLast), e]
    | _ => .cat es
  | e => e

/-! ## Lemmas -/

theorem areRegular_eq_all (wanted : List Nat) (es : List Expr) :
    areRegular wanted es = es.all (isRegular wanted) := by
  induction es with
  | nil => simp [areRegular]
  | cons e es ih => simp [areRegular, ih]

/-- Of two rows, one behind the other, the extents add up. -/
theorem extentOfRow_append (as bs : List Expr) :
    extentOfRow (as ++ bs) = (extentOfRow as).add (extentOfRow bs) := by
  induction as with
  | nil => simp [extentOfRow, Extent.add, Extent.zero]
  | cons e as ih => simp [extentOfRow, ih, Extent.add, Nat.add_assoc, Bool.and_assoc]

end Expr

end WebForm.Pattern
