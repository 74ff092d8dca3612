import WebForm.Number.Numeral
import WebForm.Number.Power
import WebForm.Pattern.Error
import WebForm.Pattern.Spelling
import WebForm.Text.Category
/-!
# Reading patterns

From the text of a pattern to its tree. The dialect is the usual one of backtracking engines:
greedy, lazy and possessive repetitions, counted ones, groups with numbers or names, references to
them and conditions on them, look-ahead and look-behind, atomic groups, flags for the rest of a
pattern or for a part of it, anchors, classes and Unicode properties. An opening brace that starts
no count is an ordinary character.
-/

set_option autoImplicit false

namespace WebForm.Pattern

/-- The flags in effect. -/
structure Flags where
  caseless : Bool := false
  multiline : Bool := false
  dotAll : Bool := false
  swapGreed : Bool := false
  spaced : Bool := false
deriving DecidableEq, Repr

/-- What the reader knows besides the text that is left. -/
structure Scope where
  flags : Flags := {}
  /-- The number of groups opened so far. -/
  opened : Nat := 0
  /-- The extents of the groups closed so far. -/
  closed : List (Nat × Extent) := []
  names : List (String × Nat) := []
  /-- Whether a group has been referred to by number. -/
  numbered : Bool := false
  /-- The groups that have been referred to. -/
  wanted : List Nat := []
  /-- References by number must stay below this bound. -/
  bound : Nat := 0

/-- The rest of the text and the scope at its start. -/
structure Cursor where
  rest : List Char
  scope : Scope

/-- The result of reading an expression. -/
abbrev ExprReading := Except PatternError (Expr × Cursor)

namespace Cursor

/-- The same scope further on in the text. -/
def moveTo (k : Cursor) (rest : List Char) : Cursor := { k with rest := rest }

/-- The flags in effect. -/
def flags (k : Cursor) : Flags := k.scope.flags

/-- The same place with other flags. -/
def withFlags (k : Cursor) (flags : Flags) : Cursor :=
  { k with scope := { k.scope with flags := flags } }

/-- The text after the comment whose content starts here. -/
def afterComment : List Char → Option (List Char)
  | [] => none
  | ')' :: rest => some rest
  | '\\' :: _ :: rest => afterComment rest
  | _ :: rest => afterComment rest

/-- Passes over comments, and over spaces where the flags ask for that. -/
def skipRemarks (spaced : Bool) : Nat → List Char → Except PatternError (List Char)
  | 0, cs => .ok cs
  | fuel + 1, cs =>
    match cs with
    | '(' :: '?' :: '#' :: rest =>
      match afterComment rest with
      | some rest => skipRemarks spaced fuel rest
      | none => .error .unclosedGroup
    | '#' :: rest =>
      if spaced then skipRemarks spaced fuel ((rest.dropWhile (· != '\n')).drop 1) else .ok cs
    | c :: rest =>
      if spaced && (c == ' ' || c == '\n' || c == '\r' || c == '\t') then
        skipRemarks spaced fuel rest
      else .ok cs
    | [] => .ok []

/-- The cursor behind comments and spaces. -/
def skip (k : Cursor) : Except PatternError Cursor := do
  return k.moveTo (← skipRemarks k.flags.spaced (k.rest.length + 1) k.rest)

/-- Closes a parenthesis. -/
def close (k : Cursor) : Except PatternError Cursor := do
  let k ← k.skip
  match k.rest with
  | ')' :: rest => .ok (k.moveTo rest)
  | _ => .error .unclosedGroup

end Cursor

/-! ## Counts -/

namespace Count

/-- A number below 2^64, if one starts here. -/
def number? (cs : List Char) : Option (Nat × List Char) :=
  let ds := cs.takeWhile Numeral.isDigit
  let n := Numeral.ofDigits ds
  if ds.isEmpty || twoTo 64 ≤ n then none else some (n, cs.drop ds.length)

/-- An upper bound; the largest number counts as none. -/
def most? (n : Nat) : Option Nat := if n + 1 = twoTo 64 then none else some n

/-- A count after its opening brace: bounds, of which the lower or the upper one may be missing.
Without a count the brace is an ordinary character. -/
def read? (k : Cursor) : Option (Nat × Option Nat × Cursor) := do
  let k ← k.skip.toOption
  let (least, k) ← match k.rest with
    | ',' :: _ => some (0, k)
    | cs => (number? cs).map fun (n, rest) => (n, k.moveTo rest)
  let k ← k.skip.toOption
  match k.rest with
  | '\x7d' :: rest => some (least, most? least, k.moveTo rest)
  | ',' :: rest =>
    let k ← (k.moveTo rest).skip.toOption
    let (most, k) := match number? k.rest with
      | some (n, rest) => (most? n, k.moveTo rest)
      | none => (none, k)
    let k ← k.skip.toOption
    match k.rest with
    | '\x7d' :: rest => some (least, most, k.moveTo rest)
    | _ => none
  | _ => none

/-- The repetition that starts here, if one does. -/
def ofSuffix? (k : Cursor) : Option (Nat × Option Nat × Cursor) :=
  match k.rest with
  | '?' :: rest => some (0, some 1, k.moveTo rest)
  | '*' :: rest => some (0, none, k.moveTo rest)
  | '+' :: rest => some (1, none, k.moveTo rest)
  | '\x7b' :: rest => read? (k.moveTo rest)
  | _ => none

end Count

/-! ## References -/

namespace Reference

/-- Characters of a group name. -/
def isNameChar (c : Char) : Bool := c == '_' || Text.isAlphanumeric c

/-- A group name up to its closing character. -/
def name? (close : Char) (cs : List Char) : Option (String × List Char) :=
  let name := cs.takeWhile isNameChar
  match cs.drop name.length with
  | c :: rest => if c = close && !name.isEmpty then some (String.ofList name, rest) else none
  | [] => none

/-- A reference to a group, with the extent of the group if it is closed already. -/
def toGroup (k : Cursor) (group : Nat) : Expr × Cursor :=
  (.backref group k.flags.caseless ((k.scope.closed.lookup group).getD ⟨0, false⟩),
    { k with scope := { k.scope with wanted := group :: k.scope.wanted } })

/-- A reference by number, from its first digit. -/
def numbered (k : Cursor) : ExprReading :=
  match Count.number? k.rest with
  | some (group, rest) =>
    if group < k.scope.bound then
      .ok (toGroup { rest := rest, scope := { k.scope with numbered := true } } group)
    else .error .badReference
  | none => .error .badReference

/-- A reference by distance, counted from the groups that have been opened. -/
def relative (close : Char) (back : Bool) (k : Cursor) : ExprReading :=
  match Count.number? k.rest with
  | some (distance, c :: rest) =>
    if c ≠ close || distance = 0 then .error .badGroupName
    else if !back then .ok (toGroup (k.moveTo rest) (k.scope.opened + distance))
    else if k.scope.opened + 1 < distance then .error .badReference
    else .ok (toGroup (k.moveTo rest) (k.scope.opened + 1 - distance))
  | _ => .error .badGroupName

/-- A reference by name: that of a group, or its number. -/
def named (close : Char) (k : Cursor) : ExprReading :=
  match name? close k.rest with
  | none => .error .badGroupName
  | some (name, rest) =>
    match k.scope.names.lookup name with
    | some group => .ok (toGroup (k.moveTo rest) group)
    | none =>
      match Count.number? name.toList with
      | some (group, []) => .ok (toGroup (k.moveTo rest) group)
      | _ => .error .badReference

/-- A reference by name or by distance. -/
def namedOrRelative (close : Char) (k : Cursor) : ExprReading :=
  match k.rest with
  | '-' :: rest => relative close true (k.moveTo rest)
  | '+' :: rest => relative close false (k.moveTo rest)
  | _ => named close k

end Reference

/-! ## Escapes -/

/-- What an escape stands for wherever it stands: a character, or a set as it is written. -/
inductive Escape where
  | char (c : Char)
  | set (text : List Char) (caseless : Bool)

namespace Escape

/-- The value of a hexadecimal digit. -/
def hexValue? (c : Char) : Option Nat :=
  if '0' ≤ c && c ≤ '9' then some (c.toNat - '0'.toNat)
  else if 'a' ≤ c && c ≤ 'f' then some (c.toNat - 'a'.toNat + 10)
  else if 'A' ≤ c && c ≤ 'F' then some (c.toNat - 'A'.toNat + 10)
  else none

/-- The character of some hexadecimal digits. -/
def codePoint (digits : List Nat) : Except PatternError Escape :=
  let n := digits.foldl (fun n v => n * 16 + v) 0
  if n.isValidChar then .ok (.char (Char.ofNat n)) else .error .badCodePoint

/-- Reads up to `n` hexadecimal digits, between which there may be remarks, and passes over the
remarks behind them. -/
def hexDigits : Nat → Cursor → Except PatternError (List Nat × Cursor)
  | 0, k => .ok ([], k)
  | n + 1, k =>
    match k.rest with
    | c :: rest =>
      match hexValue? c with
      | none => .ok ([], k)
      | some v => do
        let (vs, k) ← hexDigits n (← (k.moveTo rest).skip)
        return (v :: vs, k)
    | [] => .ok ([], k)

/-- Reads a code point of `width` digits, or of one to eight digits between braces. -/
def hex (width : Nat) (k : Cursor) : Except PatternError (Escape × Cursor) := do
  let k ← k.skip
  match k.rest with
  | '\x7b' :: rest => do
    let (digits, k) ← hexDigits 8 (← (k.moveTo rest).skip)
    match k.rest with
    | '\x7d' :: rest =>
      if digits.isEmpty then .error .badCodePoint
      else return (← codePoint digits, k.moveTo rest)
    | _ => .error .badCodePoint
  | _ => do
    let (digits, k) ← hexDigits width k
    if digits.length < width then .error .badCodePoint
    else return (← codePoint digits, k)

/-- Reads a property from its letter on. -/
def property (caseless : Bool) (letter : Char) (cs : List Char) :
    Except PatternError (Escape × List Char) :=
  match cs with
  | [] => .error (.unknownEscape letter)
  | '\x7b' :: rest =>
    let name := rest.takeWhile (· != '\x7d')
    match rest.drop name.length with
    | [] => .error (.badProperty (String.ofList name))
    | _ :: rest => .ok (.set ('\\' :: letter :: '\x7b' :: name ++ ['\x7d']) caseless, rest)
  | c :: rest => .ok (.set ['\\', letter, c] caseless, rest)

/-- The ASCII letters whose escape stands for a control character. -/
def control? : Char → Option Char
  | 'a' => some '\x07'
  | 'b' => some '\x08'
  | 'e' => some '\x1b'
  | 'f' => some '\x0c'
  | 'n' => some '\n'
  | 'r' => some '\r'
  | 't' => some '\t'
  | 'v' => some '\x0b'
  | _ => none

/-- Reads an escape after its backslash, as far as it means the same inside and outside of a
class. An escaped character that is no ASCII letter stands for itself. -/
def read (c : Char) (k : Cursor) : Except PatternError (Escape × Cursor) :=
  match c with
  | 'd' | 'D' | 'w' | 'W' | 's' | 'S' => .ok (.set ['\\', c] k.flags.caseless, k)
  | 'h' => .ok (.set "[0-9A-Fa-f]".toList false, k)
  | 'H' => .ok (.set "[^0-9A-Fa-f]".toList false, k)
  | 'x' => hex 2 k
  | 'u' => hex 4 k
  | 'U' => hex 8 k
  | 'p' | 'P' => do
    let (escape, rest) ← property k.flags.caseless c k.rest
    return (escape, k.moveTo rest)
  | c =>
    match control? c with
    | some d => .ok (.char d, k)
    | none => if c.isAlpha then .error (.unknownEscape c) else .ok (.char c, k)

end Escape

/-! ## Classes -/

namespace ClassText

/-- Letters whose escape is the letter itself inside a class. -/
def isPlainInClass (c : Char) : Bool := ['k', 'A', 'z', 'B', 'K', 'G'].contains c

/-- Reads an escape inside a class, after its backslash, as it is written without flags. -/
def escape (k : Cursor) : Except PatternError (List Char × Cursor) :=
  match k.rest with
  | [] => .error .trailingBackslash
  | c :: rest =>
    if c.isDigit then .error .unclosedClass
    else if isPlainInClass c then .ok ([c], k.moveTo rest)
    else do
      let (escape, k) ← Escape.read c (k.moveTo rest)
      match escape with
      | .char d => return (quotedInClass d, k)
      | .set text _ => return (text, k)

/-- Reads up to the bracket that closes the outermost class, where `nest` classes are open;
`fuel` is more than the length of the text. -/
def inside : Nat → Nat → Cursor → Except PatternError (List Char × Cursor)
  | 0, _, _ => .error .unclosedClass
  | fuel + 1, nest, k =>
    match k.rest with
    | [] => .error .unclosedClass
    | '\\' :: rest => do
      let (text, k) ← escape (k.moveTo rest)
      let (more, k) ← inside fuel nest k
      return (text ++ more, k)
    | ']' :: rest =>
      if nest ≤ 1 then .ok ([']'], k.moveTo rest)
      else do
        let (more, k) ← inside fuel (nest - 1) (k.moveTo rest)
        return (']' :: more, k)
    | c :: rest => do
      let (more, k) ← inside fuel (if c = '[' then nest + 1 else nest) (k.moveTo rest)
      return (c :: more, k)

/-- Reads a class after its opening bracket, to be kept as it is written. A bracket that closes it
right away is an ordinary character instead. -/
def read (k : Cursor) : ExprReading := do
  let (hat, cs) := match k.rest with
    | '^' :: rest => (['^'], rest)
    | cs => ([], cs)
  let (bracket, cs) := match cs with
    | ']' :: rest => ([']'], rest)
    | cs => ([], cs)
  let (text, after) ← inside (cs.length + 1) 1 (k.moveTo cs)
  return (.plain ('[' :: hat ++ bracket ++ text) k.flags.caseless, after)

end ClassText

/-! ## Escapes outside of classes -/

namespace Expr

/-- The edges of words that have a name between braces. -/
def wordEdges : List (String × Anchor) := [
  ("\x7bstart\x7d", .wordStart), ("\x7bend\x7d", .wordEnd),
  ("\x7bstart-half\x7d", .noWordBefore), ("\x7bend-half\x7d", .noWordAfter)]

/-- Reads the edge of a word after its letter. A brace behind it starts a repetition or a name. -/
def ofWordEdge (edge : Anchor) (named : Bool) (k : Cursor) : ExprReading :=
  match k.rest with
  | '\x7b' :: rest =>
    if (Count.read? (k.moveTo rest)).isSome then .ok (.anchor edge, k)
    else
      match wordEdges.find? fun row => named && row.1.toList.isPrefixOf k.rest with
      | some (name, edge) => .ok (.anchor edge, k.moveTo (k.rest.drop name.length))
      | none => .error (.unknownEscape 'b')
  | _ => .ok (.anchor edge, k)

/-- Reads an escape after its backslash. -/
def ofEscape (k : Cursor) : ExprReading :=
  match k.rest with
  | [] => .error .trailingBackslash
  | c :: rest =>
    if c.isDigit then Reference.numbered k
    else
      let after := k.moveTo rest
      match c, rest with
      | 'k', '<' :: rest => Reference.namedOrRelative '>' (k.moveTo rest)
      | 'k', '\x27' :: rest => Reference.namedOrRelative '\x27' (k.moveTo rest)
      | 'k', _ => .error .badGroupName
      | 'A', _ => .ok (.anchor .textStart, after)
      | 'z', _ => .ok (.anchor .textEnd, after)
      | 'Z', _ => .ok (.anchor .lastLineEnd, after)
      | '<', _ => .ok (.anchor .wordStart, after)
      | '>', _ => .ok (.anchor .wordEnd, after)
      | 'b', _ => ofWordEdge .wordEdge true after
      | 'B', _ => ofWordEdge .notWordEdge false after
      | 'O', _ => .ok (.any true, after)
      | 'G', _ => .ok (.searchStart, after)
      | 'K', _ => .ok (.matchStart, after)
      | c, _ => do
        let (escape, k) ← Escape.read c after
        match escape with
        | .char d => return (.literal d k.flags.caseless, k)
        | .set text caseless => return (.plain text caseless, k)

end Expr

/-! ## Groups -/

/-- What an opening parenthesis starts. -/
inductive Opening where
  | look (ahead negative : Bool)
  | atomic
  | capturing (index : Nat)
  | condition
  /-- The flags in front of a part or of the rest of the group. -/
  | flags

/-- The result of reading the start of a group. -/
abbrev OpeningReading := Except PatternError (Opening × Cursor)

namespace Opening

/-- Opens a group with the next number and maybe a name. -/
def capture (k : Cursor) (name : Option String) : Nat × Cursor :=
  let index := k.scope.opened + 1
  let names := match name with
    | some n => (n, index) :: k.scope.names
    | none => k.scope.names
  (index, { k with scope := { k.scope with opened := index, names := names } })

/-- Reads what follows an opening parenthesis. -/
def read (k : Cursor) : OpeningReading :=
  let withName (close : Char) (rest : List Char) : OpeningReading :=
    match Reference.name? close rest with
    | some (name, rest) =>
      let (index, k) := capture (k.moveTo rest) (some name)
      .ok (.capturing index, k)
    | none => .error .badGroupName
  match k.rest with
  | '?' :: '=' :: rest => .ok (.look true false, k.moveTo rest)
  | '?' :: '!' :: rest => .ok (.look true true, k.moveTo rest)
  | '?' :: '<' :: '=' :: rest => .ok (.look false false, k.moveTo rest)
  | '?' :: '<' :: '!' :: rest => .ok (.look false true, k.moveTo rest)
  | '?' :: '<' :: rest => withName '>' rest
  | '?' :: '\x27' :: rest => withName '\x27' rest
  | '?' :: 'P' :: '<' :: rest => withName '>' rest
  | '?' :: '>' :: rest => .ok (.atomic, k.moveTo rest)
  | '?' :: '(' :: rest => .ok (.condition, k.moveTo rest)
  | '?' :: rest => .ok (.flags, k.moveTo rest)
  | _ =>
    let (index, k) := capture k none
    .ok (.capturing index, k)

end Opening

namespace Flags

/-- Reads flags up to the parenthesis or colon that ends them, and tells which of the two it was.
`length` is that of the text from the first flag on, and `fuel` more than the length of the
text. -/
def read (length : Nat) (off : Bool) : Nat → Cursor → Except PatternError (Bool × Cursor)
  | 0, _ => .error .unclosedGroup
  | fuel + 1, k => do
    let k ← k.skip
    let flags := k.flags
    let isFirst := k.rest.length = length
    let isDangling := off && k.rest.length + 1 = length
    match k.rest with
    | [] => .error .unclosedGroup
    | c :: rest =>
      let set (flags : Flags) := read length off fuel ((k.moveTo rest).withFlags flags)
      match c with
      | 'i' => set { flags with caseless := !off }
      | 'm' => set { flags with multiline := !off }
      | 's' => set { flags with dotAll := !off }
      | 'U' => set { flags with swapGreed := !off }
      | 'x' => set { flags with spaced := !off }
      | 'u' => if off then .error .unknownFlag else set flags
      | '-' => if off then .error .unknownFlag else read length true fuel (k.moveTo rest)
      | ')' => if isFirst || isDangling then .error .unknownFlag else .ok (false, k.moveTo rest)
      | ':' => if isDangling then .error .unknownFlag else .ok (true, k.moveTo rest)
      | _ => .error .unknownFlag

end Flags

namespace Expr

/-- Groups may nest this deep. -/
def maxNesting : Nat := 63

/-- A reference as a condition: whether its group has been reached. -/
def asCondition : Expr → Expr
  | .backref index _ _ => .reached index
  | e => e

/-- The alternatives of an expression as the ways behind a condition: the first, and the others. -/
def branches : Expr → Expr × Expr
  | .alt [yes, no] => (yes, no)
  | .alt (yes :: no) => (yes, .alt no)
  | e => (e, .empty)

/-- A condition with its two ways; without any it is a condition on the text alone. -/
def ofCondition (condition : Expr) (ways : Expr × Expr) : Expr :=
  match ways with
  | (.empty, .empty) => asCondition condition
  | (yes, no) => .cond (asCondition condition) yes no

/-- Reads the condition behind its opening parenthesis, if it is a reference. -/
def ofReferenceCondition? (k : Cursor) : Option ExprReading :=
  match k.rest with
  | '<' :: rest => some (Reference.namedOrRelative '>' (k.moveTo rest))
  | '\x27' :: rest => some (Reference.namedOrRelative '\x27' (k.moveTo rest))
  | c :: _ => if c.isDigit then some (Reference.numbered k) else none
  | [] => none

/-- Closes a group that has a number. -/
def closeCapture (index : Nat) (inner : Expr) (k : Cursor) : ExprReading := do
  let k ← k.close
  return (.group index inner,
    { k with scope := { k.scope with closed := (index, inner.extent) :: k.scope.closed } })

mutual

/-- Reads alternatives. `room` is how much deeper groups may nest. -/
def readAlt (room : Nat) : Nat → Cursor → ExprReading
  | 0, _ => .error .tooDeep
  | fuel + 1, k => do
    let (first, k) ← readRow room fuel [] k
    let k ← k.skip
    match k.rest with
    | '|' :: rest => readMore room fuel [first] (k.moveTo rest)
    | _ =>
      if k.scope.numbered && !k.scope.names.isEmpty then .error .mixedReferences
      else .ok (first, k)

/-- Reads the alternatives behind a bar. -/
def readMore (room : Nat) : Nat → List Expr → Cursor → ExprReading
  | 0, _, _ => .error .tooDeep
  | fuel + 1, before, k => do
    let (next, k) ← readRow room fuel [] k
    let k ← k.skip
    match k.rest with
    | '|' :: rest => readMore room fuel (next :: before) (k.moveTo rest)
    | _ => .ok (.alt (next :: before).reverse, k)

/-- Reads pieces until none can be read. Those that are empty leave no trace. -/
def readRow (room : Nat) : Nat → List Expr → Cursor → ExprReading
  | 0, _, _ => .error .tooDeep
  | fuel + 1, before, k =>
    if k.rest.isEmpty then .ok (row before.reverse, k)
    else do
      let (piece, next) ← readPiece room fuel k
      if next.rest.length = k.rest.length then .ok (row before.reverse, next)
      else
        match piece with
        | .empty => readRow room fuel before next
        | piece => readRow room fuel (piece :: before) next

/-- Reads an atom and the repetition behind it. -/
def readPiece (room : Nat) : Nat → Cursor → ExprReading
  | 0, _ => .error .tooDeep
  | fuel + 1, k => do
    let (atom, k) ← readAtom room fuel k
    let k ← k.skip
    match Count.ofSuffix? k with
    | none => return (atom, k)
    | some (least, most, k) =>
      if !atom.isRepeatable then .error .nothingToRepeat
      else do
        let k ← k.skip
        let (lazily, k) := match k.rest with
          | '?' :: rest => (true, k.moveTo rest)
          | _ => (false, k)
        let repeated := Expr.times atom least most (lazily == k.flags.swapGreed)
        match k.rest with
        | '+' :: rest => return (.atomic repeated, k.moveTo rest)
        | _ => return (repeated, k)

/-- Reads an atom; an empty one where none starts. -/
def readAtom (room : Nat) : Nat → Cursor → ExprReading
  | 0, _ => .error .tooDeep
  | fuel + 1, k => do
    let k ← k.skip
    match k.rest with
    | [] => .ok (.empty, k)
    | c :: rest =>
      let after := k.moveTo rest
      match c with
      | '.' => .ok (.any k.flags.dotAll, after)
      | '^' => .ok (.anchor (if k.flags.multiline then .lineStart else .textStart), after)
      | '$' => .ok (.anchor (if k.flags.multiline then .lineEnd else .textEnd), after)
      | '(' =>
        match room with
        | 0 => .error .tooDeep
        | room + 1 => readGroup room fuel after
      | '\\' => ofEscape after
      | '+' | '*' | '?' | '|' | ')' => .ok (.empty, k)
      | '[' => ClassText.read after
      | c => .ok (.literal c k.flags.caseless, after)

/-- Reads a group after its opening parenthesis. -/
def readGroup (room : Nat) : Nat → Cursor → ExprReading
  | 0, _ => .error .tooDeep
  | fuel + 1, k => do
    let k ← k.skip
    match k.rest with
    | '?' :: 'P' :: '=' :: rest => Reference.named ')' (k.moveTo rest)
    | _ =>
      let outside := k.flags
      let (opening, k) ← Opening.read k
      match opening with
      | .flags => do
        let (isPart, k) ← Flags.read k.rest.length false (k.rest.length + 1) k
        if isPart then
          let (inner, k) ← readAlt room fuel k
          return (inner, ← (k.withFlags outside).close)
        else return (.empty, k)
      | .condition => readCondition room fuel k
      | .look ahead negative => do
        let (inner, k) ← readAlt room fuel k
        return (.look ahead negative inner, ← k.close)
      | .atomic => do
        let (inner, k) ← readAlt room fuel k
        return (.atomic inner, ← k.close)
      | .capturing index => do
        let (inner, k) ← readAlt room fuel k
        closeCapture index inner k

/-- Reads a condition and what stands behind it. -/
def readCondition (room : Nat) : Nat → Cursor → ExprReading
  | 0, _ => .error .tooDeep
  | fuel + 1, k => do
    let (condition, k) ← match ofReferenceCondition? k with
      | some reading => reading
      | none => readAlt room fuel k
    let k ← k.close
    let (ways, next) ← readAlt room fuel k
    if next.rest.length = k.rest.length then
      match condition with
      | .backref index _ _ => return (.reached index, ← next.close)
      | _ => .error .badCondition
    else return (ofCondition condition ways.branches, ← next.close)

end

end Expr

/-! ## Whole patterns -/

/-- A pattern that has been read: its tree, how many groups it has, and the groups that something
refers to. -/
structure Reading where
  expr : Expr
  groups : Nat
  wanted : List Nat

namespace Reading

/-- Reads a pattern. What is referred to has to be one of its groups. -/
def ofSource (source : String) : Except PatternError Reading := do
  let cs := source.toList
  let scope : Scope := { bound := source.utf8ByteSize / 2 }
  let (expr, k) ← Expr.readAlt Expr.maxNesting (8 * cs.length + 16) ⟨cs, scope⟩
  if !k.rest.isEmpty then .error .unopenedGroup
  else if k.scope.wanted.any fun group => group = 0 || k.scope.opened < group then
    .error .badReference
  else return ⟨expr, k.scope.opened, k.scope.wanted⟩

end Reading

end WebForm.Pattern
