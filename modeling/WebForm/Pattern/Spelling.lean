import WebForm.Pattern.Expr
/-!
# The spelling of regular expressions

What an automaton can follow is handed over as the text of a regular expression in the plain
dialect, without flags that reach beyond their group. A class or a property stands in it just as it
is written in the pattern.
-/

set_option autoImplicit false

namespace WebForm.Pattern

/-- What surrounds an expression, from what binds loosest to what binds tightest. -/
inductive Binding where
  | nothing
  | choice
  | row
  | repetition
deriving DecidableEq, Repr

/-- The characters that mean something in a regular expression. -/
def isOperator (c : Char) : Bool :=
  ['\\', '.', '+', '*', '?', '(', ')', '|', '[', ']', '\x7b', '\x7d', '^', '$', '#'].contains c

/-- The characters that mean something in a class as well. -/
def isClassOperator (c : Char) : Bool := isOperator c || ['&', '-', '~'].contains c

/-- A character as itself. -/
def quoted (c : Char) : List Char := if isOperator c then ['\\', c] else [c]

/-- A character as itself inside a class. -/
def quotedInClass (c : Char) : List Char := if isClassOperator c then ['\\', c] else [c]

/-- A text in a group that has no number. -/
def grouped (flags : String) (cs : List Char) : List Char :=
  "(?".toList ++ flags.toList ++ [':'] ++ cs ++ [')']

/-- A text in such a group, if needed. -/
def groupedIf (needed : Bool) (flags : String) (cs : List Char) : List Char :=
  if needed then grouped flags cs else cs

/-- The spelling of an anchor of regular expressions. -/
def Anchor.spelled : Anchor → List Char
  | .textStart => ['^']
  | .textEnd => ['$']
  | .lineStart => grouped "m" ['^']
  | .lineEnd => grouped "m" ['$']
  | _ => []

/-- The spelling of the bounds of a repetition. -/
def spelledBounds (least : Nat) (most : Option Nat) : List Char :=
  match least, most with
  | 0, some 1 => ['?']
  | 0, none => ['*']
  | 1, none => ['+']
  | least, none => '\x7b' :: (toString least).toList ++ [',', '\x7d']
  | least, some most =>
    if most = least then '\x7b' :: (toString least).toList ++ ['\x7d']
    else '\x7b' :: (toString least).toList ++ ',' :: (toString most).toList ++ ['\x7d']

namespace Expr

mutual

/-- The spelling of an expression that an automaton can follow. -/
def spelled : Binding → Expr → List Char
  | _, .any breaks => groupedIf breaks "s" ['.']
  | _, .literal c caseless => groupedIf caseless "i" (quoted c)
  | _, .plain text caseless => groupedIf caseless "i" text
  | _, .anchor a => a.spelled
  | around, .cat es => groupedIf (around == .row || around == .repetition) "" (spelledRow es)
  | around, .alt es => groupedIf (around != .nothing) "" (spelledChoice es)
  | around, .times e least most greedy =>
    groupedIf (around == .repetition) ""
      (e.spelled .repetition ++ spelledBounds least most ++ if greedy then [] else ['?'])
  | _, .group _ e => '(' :: e.spelled .nothing ++ [')']
  | _, .empty | _, .backref _ _ _ | _, .reached _ | _, .cond _ _ _ | _, .look _ _ _ | _, .atomic _
  | _, .matchStart | _, .searchStart => []

/-- The spelling of expressions in a row. -/
def spelledRow : List Expr → List Char
  | [] => []
  | e :: es => e.spelled .row ++ spelledRow es

/-- The spelling of alternatives. -/
def spelledChoice : List Expr → List Char
  | [] => []
  | [e] => e.spelled .choice
  | e :: es => e.spelled .choice ++ '|' :: spelledChoice es

end

end Expr

end WebForm.Pattern
