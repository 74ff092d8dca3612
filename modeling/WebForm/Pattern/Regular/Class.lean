import WebForm.Pattern.Error
import WebForm.Pattern.Folding
/-!
# Classes of regular expressions

What stands for one character of a set: the escapes of classes and properties, and classes between
brackets. Inside brackets, `^` complements, `-` makes ranges, `&&`, `--` and `~~` combine what
stands on both sides, and classes may be nested or named.

Every reader gives back what it leaves of the text. The height of a class tells how deep its parts
are nested.
-/

set_option autoImplicit false

namespace WebForm.Pattern.Regular

/-! ## Escapes -/

/-- What stands in a class: a character, or a set with a name of its own. -/
inductive ClassAtom where
  | char (c : Char)
  | set (s : CharSet)
deriving Repr

namespace ClassAtom

/-- The characters that an atom stands for. -/
def toSet : ClassAtom → CharSet
  | .char c => .single c
  | .set s => s

/-- The character of an atom, as the end of a range. -/
def rangeEnd : ClassAtom → Except PatternError Char
  | .char c => .ok c
  | .set _ => .error .badRange

/-- Reads a property after its letter, which in capital asks for the complement. -/
def ofProperty (caseless negated : Bool) (cs : List Char) :
    Except PatternError (ClassAtom × List Char) :=
  let finish (found : Option (Bool × CharSet)) (name rest : List Char) :=
    match found with
    | some (opposite, s) =>
      .ok (.set (.complIf (negated != opposite) (.foldedIf caseless s)), rest)
    | none => .error (.badProperty (String.ofList name))
  match cs with
  | [] => .error .trailingBackslash
  | '\x7b' :: rest =>
    let name := rest.takeWhile (· != '\x7d')
    match rest.drop name.length with
    | [] => .error (.badProperty (String.ofList name))
    | _ :: rest => finish (Property.query? name) name rest
  | c :: rest => finish ((Property.named? [c]).map fun s => (false, s)) [c] rest

/-- Reads an escape after its backslash. A character that is neither a letter nor a digit stands
for itself. -/
def ofEscape (caseless : Bool) : List Char → Except PatternError (ClassAtom × List Char)
  | [] => .error .trailingBackslash
  | 'd' :: rest => .ok (.set Property.decimalDigit, rest)
  | 'D' :: rest => .ok (.set Property.decimalDigit.compl, rest)
  | 'w' :: rest => .ok (.set Property.wordChar, rest)
  | 'W' :: rest => .ok (.set Property.wordChar.compl, rest)
  | 's' :: rest => .ok (.set Property.whiteSpace, rest)
  | 'S' :: rest => .ok (.set Property.whiteSpace.compl, rest)
  | 'p' :: rest => ofProperty caseless false rest
  | 'P' :: rest => ofProperty caseless true rest
  | c :: rest => if c.isAlphanum then .error (.unknownEscape c) else .ok (.char c, rest)

/-- Reads an atom. -/
def read (caseless : Bool) : List Char → Except PatternError (ClassAtom × List Char)
  | [] => .error .unclosedClass
  | '\\' :: rest => ofEscape caseless rest
  | c :: rest => .ok (.char c, rest)

end ClassAtom

/-! ## Named classes -/

/-- The classes of ASCII characters that have a name. -/
def asciiClasses : List (String × List (Nat × Nat)) := [
  ("alnum", [(0x30, 0x39), (0x41, 0x5A), (0x61, 0x7A)]),
  ("alpha", [(0x41, 0x5A), (0x61, 0x7A)]),
  ("ascii", [(0x0, 0x7F)]),
  ("blank", [(0x9, 0x9), (0x20, 0x20)]),
  ("cntrl", [(0x0, 0x1F), (0x7F, 0x7F)]),
  ("digit", [(0x30, 0x39)]),
  ("graph", [(0x21, 0x7E)]),
  ("lower", [(0x61, 0x7A)]),
  ("print", [(0x20, 0x7E)]),
  ("punct", [(0x21, 0x2F), (0x3A, 0x40), (0x5B, 0x60), (0x7B, 0x7E)]),
  ("space", [(0x9, 0xD), (0x20, 0x20)]),
  ("upper", [(0x41, 0x5A)]),
  ("word", [(0x30, 0x39), (0x41, 0x5A), (0x5F, 0x5F), (0x61, 0x7A)]),
  ("xdigit", [(0x30, 0x39), (0x41, 0x46), (0x61, 0x66)])]

/-- Reads a named class behind its bracket: a name between colons, with `^` in front of it for the
complement. What is no named class is left to be read as a nested one. -/
def namedClass? (caseless : Bool) : List Char → Option (CharSet × List Char)
  | ':' :: rest =>
    let (negated, rest) := match rest with
      | '^' :: rest => (true, rest)
      | _ => (false, rest)
    let name := rest.takeWhile (· != ':')
    match rest.drop name.length with
    | ':' :: ']' :: rest =>
      (asciiClasses.lookup (String.ofList name)).map fun ranges =>
        (.complIf negated (.foldedIf caseless (.ofAscending ranges)), rest)
    | _ => none
  | _ => none

/-! ## Classes between brackets -/

/-- An operator between two parts of a class. -/
inductive SetOp where
  | inter
  | diff
  | symmDiff
deriving DecidableEq, Repr

/-- Applies an operator. -/
def SetOp.apply : SetOp → CharSet → CharSet → CharSet
  | .inter => .inter
  | .diff => .diff
  | .symmDiff => .symmDiff

/-- A set that has been read, with the height of what it was read from. -/
structure Tall where
  set : CharSet
  height : Nat

/-- The items of a class since its start or since the last operator. -/
structure Items where
  set : CharSet := .none
  count : Nat := 0
  height : Nat := 0

namespace Items

/-- Adds an item. -/
def add (items : Items) (item : CharSet) (height : Nat) : Items :=
  ⟨items.set.union item, items.count + 1, max items.height height⟩

/-- The items as one; several of them stand one level below it. -/
def toTall (items : Items) : Tall :=
  ⟨items.set, if items.count < 2 then items.height else items.height + 1⟩

end Items

/-- What stands to the left of some items: a set and the operator that waits for them. -/
abbrev Waiting := Option (Tall × SetOp)

/-- Applies the operator that waits for a right side. -/
def applyWaiting (caseless : Bool) (waiting : Waiting) (right : Tall) : Tall :=
  match waiting with
  | none => right
  | some (left, op) =>
    ⟨op.apply (.foldedIf caseless left.set) (.foldedIf caseless right.set),
      max left.height right.height + 1⟩

/-- Reads hyphens at the start of a class, which are ordinary characters. -/
def leadingHyphens (items : Items) : List Char → Items × List Char
  | '-' :: rest => leadingHyphens (items.add (.single '-') 0) rest
  | cs => (items, cs)

/-- Reads what stands before the first item of a class: whether it is a complement, and the
hyphens or the bracket that come first. -/
def classStart (cs : List Char) : Bool × Items × List Char :=
  let (negated, cs) := match cs with
    | '^' :: rest => (true, rest)
    | _ => (false, cs)
  let (items, cs) := leadingHyphens {} cs
  match items.count, cs with
  | 0, ']' :: rest => (negated, items.add (.single ']') 0, rest)
  | _, _ => (negated, items, cs)

/-- Reads a character, a named set or a range. -/
def readRange (caseless : Bool) (cs : List Char) :
    Except PatternError (CharSet × List Char) := do
  let (first, rest) ← ClassAtom.read caseless cs
  match rest with
  | '-' :: ']' :: _ | '-' :: '-' :: _ => return (first.toSet, rest)
  | '-' :: rest => do
    let (last, rest) ← ClassAtom.read caseless rest
    let first ← first.rangeEnd
    let last ← last.rangeEnd
    if last < first then .error .badRange else return (.between first last, rest)
  | _ => return (first.toSet, rest)

mutual

/-- Reads a class from behind its opening bracket; `fuel` is more than twice the length of the
text. -/
def readClassFrom (caseless : Bool) : Nat → List Char → Except PatternError (Tall × List Char)
  | 0, _ => .error .unclosedClass
  | fuel + 1, cs => do
    let (negated, items, cs) := classStart cs
    let (found, rest) ← readItems caseless fuel none items cs
    return (⟨.complIf negated (.foldedIf caseless found.set), found.height⟩, rest)

/-- Reads the items up to the closing bracket. -/
def readItems (caseless : Bool) : Nat → Waiting → Items → List Char →
    Except PatternError (Tall × List Char)
  | 0, _, _, _ => .error .unclosedClass
  | fuel + 1, waiting, items, cs =>
    let operator (op : SetOp) (rest : List Char) :=
      readItems caseless fuel (some (applyWaiting caseless waiting items.toTall, op)) {} rest
    match cs with
    | [] => .error .unclosedClass
    | ']' :: rest => .ok (applyWaiting caseless waiting items.toTall, rest)
    | '&' :: '&' :: rest => operator .inter rest
    | '-' :: '-' :: rest => operator .diff rest
    | '~' :: '~' :: rest => operator .symmDiff rest
    | '[' :: rest =>
      match namedClass? caseless rest with
      | some (named, rest) => readItems caseless fuel waiting (items.add named 0) rest
      | none => do
        let (inner, rest) ← readClassFrom caseless fuel rest
        readItems caseless fuel waiting (items.add inner.set (inner.height + 1)) rest
    | cs => do
      let (range, rest) ← readRange caseless cs
      readItems caseless fuel waiting (items.add range 0) rest

end

/-- Reads a class from behind its opening bracket. -/
def readClass (caseless : Bool) (cs : List Char) : Except PatternError (Tall × List Char) :=
  readClassFrom caseless (2 * cs.length + 2) cs

end WebForm.Pattern.Regular
