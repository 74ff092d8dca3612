import WebForm.Text.CategoryTable
import WebForm.Text.TraitTable
/-!
# General categories

The thirty general categories of Unicode, the groups that a property name may stand for, and the
three character classes of the library that are defined through them: alphanumeric characters,
characters that can be shown as they are, and characters that combine with the one before.
-/

set_option autoImplicit false

namespace WebForm.Text

/-- A general category. -/
inductive Category where
  | Lu | Ll | Lt | Lm | Lo
  | Mn | Mc | Me
  | Nd | Nl | No
  | Pc | Pd | Ps | Pe | Pi | Pf | Po
  | Sm | Sc | Sk | So
  | Zs | Zl | Zp
  | Cc | Cf | Co | Cs | Cn
deriving DecidableEq, Repr

namespace Category

/-- Every category but the two that have no characters: surrogates and unassigned code points. -/
def assigned : List Category :=
  [.Lu, .Ll, .Lt, .Lm, .Lo, .Mn, .Mc, .Me, .Nd, .Nl, .No, .Pc, .Pd, .Ps, .Pe, .Pi, .Pf, .Po,
   .Sm, .Sc, .Sk, .So, .Zs, .Zl, .Zp, .Cc, .Cf, .Co]

/-- The table of a category. -/
def spans : Category → List Span
  | .Lu => spansLu | .Ll => spansLl | .Lt => spansLt | .Lm => spansLm | .Lo => spansLo
  | .Mn => spansMn | .Mc => spansMc | .Me => spansMe
  | .Nd => spansNd | .Nl => spansNl | .No => spansNo
  | .Pc => spansPc | .Pd => spansPd | .Ps => spansPs | .Pe => spansPe
  | .Pi => spansPi | .Pf => spansPf | .Po => spansPo
  | .Sm => spansSm | .Sc => spansSc | .Sk => spansSk | .So => spansSo
  | .Zs => spansZs | .Zl => spansZl | .Zp => spansZp
  | .Cc => spansCc | .Cf => spansCf | .Co => spansCo
  | .Cs | .Cn => []

/-- Whether a character belongs to the category. A character is unassigned when it is on no
table. -/
def has (g : Category) (c : Char) : Bool :=
  match g with
  | .Cn => !assigned.any fun a => onSpans a.spans c.toNat
  | _ => onSpans g.spans c.toNat

/-- The letters, in the order of the database. -/
def letters : List Category := [.Lu, .Ll, .Lt, .Lm, .Lo]

/-- The marks. -/
def marks : List Category := [.Mn, .Mc, .Me]

/-- The property names of the standard, in lower case and without separators, with the categories
that each stands for. -/
def named : List (String × List Category) := [
  ("lu", [.Lu]), ("uppercaseletter", [.Lu]),
  ("ll", [.Ll]), ("lowercaseletter", [.Ll]),
  ("lt", [.Lt]), ("titlecaseletter", [.Lt]),
  ("lc", [.Lu, .Ll, .Lt]), ("casedletter", [.Lu, .Ll, .Lt]),
  ("lm", [.Lm]), ("modifierletter", [.Lm]),
  ("lo", [.Lo]), ("otherletter", [.Lo]),
  ("l", letters), ("letter", letters),
  ("mn", [.Mn]), ("nonspacingmark", [.Mn]),
  ("mc", [.Mc]), ("spacingmark", [.Mc]),
  ("me", [.Me]), ("enclosingmark", [.Me]),
  ("m", marks), ("mark", marks), ("combiningmark", marks),
  ("nd", [.Nd]), ("decimalnumber", [.Nd]), ("digit", [.Nd]),
  ("nl", [.Nl]), ("letternumber", [.Nl]),
  ("no", [.No]), ("othernumber", [.No]),
  ("n", [.Nd, .Nl, .No]), ("number", [.Nd, .Nl, .No]),
  ("pc", [.Pc]), ("connectorpunctuation", [.Pc]),
  ("pd", [.Pd]), ("dashpunctuation", [.Pd]),
  ("ps", [.Ps]), ("openpunctuation", [.Ps]),
  ("pe", [.Pe]), ("closepunctuation", [.Pe]),
  ("pi", [.Pi]), ("initialpunctuation", [.Pi]),
  ("pf", [.Pf]), ("finalpunctuation", [.Pf]),
  ("po", [.Po]), ("otherpunctuation", [.Po]),
  ("p", [.Pc, .Pd, .Ps, .Pe, .Pi, .Pf, .Po]),
  ("punctuation", [.Pc, .Pd, .Ps, .Pe, .Pi, .Pf, .Po]),
  ("punct", [.Pc, .Pd, .Ps, .Pe, .Pi, .Pf, .Po]),
  ("sm", [.Sm]), ("mathsymbol", [.Sm]),
  ("sc", [.Sc]), ("currencysymbol", [.Sc]),
  ("sk", [.Sk]), ("modifiersymbol", [.Sk]),
  ("so", [.So]), ("othersymbol", [.So]),
  ("s", [.Sm, .Sc, .Sk, .So]), ("symbol", [.Sm, .Sc, .Sk, .So]),
  ("zs", [.Zs]), ("spaceseparator", [.Zs]),
  ("zl", [.Zl]), ("lineseparator", [.Zl]),
  ("zp", [.Zp]), ("paragraphseparator", [.Zp]),
  ("z", [.Zs, .Zl, .Zp]), ("separator", [.Zs, .Zl, .Zp]),
  ("cc", [.Cc]), ("control", [.Cc]), ("cntrl", [.Cc]),
  ("cf", [.Cf]), ("format", [.Cf]),
  ("co", [.Co]), ("privateuse", [.Co]),
  ("cn", [.Cn]), ("unassigned", [.Cn]),
  ("c", [.Cc, .Cf, .Co, .Cs, .Cn]), ("other", [.Cc, .Cf, .Co, .Cs, .Cn]),
  ("assigned", assigned),
  ("any", .Cn :: assigned)]

/-- The categories that a property name stands for. -/
def ofName? (name : String) : Option (List Category) :=
  (named.find? (·.1 == name)).map (·.2)

end Category

/-- Letters, letter numbers and what counts as alphabetic besides them, and the numbers of every
kind. -/
def isAlphanumeric (c : Char) : Bool :=
  if c.toNat < 0x80 then c.isAlphanum
  else
    (Category.letters ++ [Category.Nd, .Nl, .No]).any (·.has c) ||
      onSpans Trait.otherAlphabetic c.toNat

/-- Marks that combine with the one before into a single visible unit. Two half-width letters do so
as well, but they show well enough alone. -/
def isExtending (c : Char) : Bool :=
  0x80 ≤ c.toNat &&
    (Category.Mn.has c || Category.Me.has c ||
      (Category.Mc.has c && onSpans Trait.otherGraphemeExtend c.toNat))

/-- Letters that only hold the place of a missing one: the fillers of Hangul. -/
def isFiller (c : Char) : Bool :=
  Category.Lo.has c && onSpans Trait.otherDefaultIgnorable c.toNat

/-- Characters that show as themselves: no controls, format characters, private use, unassigned
code points, separators or fillers, the plain space excepted. -/
def isShown (c : Char) : Bool :=
  if c.toNat < 0x80 then 0x20 ≤ c.toNat && c.toNat < 0x7F
  else
    !([.Cc, .Cf, .Co, .Cn, .Zl, .Zp, .Zs] : List Category).any (·.has c) && !isFiller c

end WebForm.Text
