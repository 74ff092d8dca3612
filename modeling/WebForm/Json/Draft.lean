import WebForm.Json.NumberText
/-!
# Reading JSON text

A text is read into a *draft*: the value as far as it could be made out. Reading never fails;
where the text goes wrong, the draft carries the fault in the place where it was met, and nothing
comes after it. Whoever walks a draft in the order of the text therefore meets the faults of the
text and the errors of its own in the order in which a reader of the bare text would.

A scalar has two readings, because a member that nobody asks for is passed over less strictly:
half of a surrogate pair, or a number beyond every double, is a fault only for one who wants the
value.

`Json.parse` is the walk that turns a draft into a value.
-/

set_option autoImplicit false

namespace WebForm

/-- What can be wrong with a text. -/
inductive Fault where
  /-- A character that cannot stand where it stands. -/
  | malformed
  /-- The text ends where more is needed. -/
  | unfinished
deriving DecidableEq, Repr

/-- A value without parts. -/
inductive Scalar where
  | null
  | bool (b : Bool)
  | number (n : JsonNumber)
  | string (s : String)
deriving DecidableEq, Repr

/-- A value as far as it could be read. An array or object ends with the fault that kept it from
being closed, if there was one. -/
inductive Draft where
  /-- A scalar: what one reads who wants it, and the fault for one who passes over it. -/
  | scalar (read : Except Fault Scalar) (skipped : Option Fault)
  | array (items : List Draft) (ending : Option Fault)
  | object (members : List (Except Fault String × Draft)) (ending : Option Fault)

namespace Draft

/-- A place where nothing could be read. -/
def fault (f : Fault) : Draft := .scalar (.error f) (some f)

/-- A piece of a text that has been read, and the rest of the text or the fault that ended the
reading. -/
structure Piece (α : Type) where
  value : α
  rest : Except Fault (List Char)

/-! ## Scalars -/

/-- The four characters that may stand between the parts of a document. -/
def isGap (c : Char) : Bool := c == ' ' || c == '\n' || c == '\r' || c == '\t'

/-- The text after the gap at its start. -/
def skipGap (cs : List Char) : List Char := cs.dropWhile isGap

/-- The value of a hexadecimal digit. -/
def hexValue? (c : Char) : Option Nat :=
  if '0' ≤ c && c ≤ '9' then some (c.toNat - '0'.toNat)
  else if 'a' ≤ c && c ≤ 'f' then some (c.toNat - 'a'.toNat + 10)
  else if 'A' ≤ c && c ≤ 'F' then some (c.toNat - 'A'.toNat + 10)
  else none

/-- The code unit of four hexadecimal digits. -/
def hexUnit? (a b c d : Char) : Option Nat := do
  return (← hexValue? a) * 4096 + (← hexValue? b) * 256 + (← hexValue? c) * 16 + (← hexValue? d)

/-- The character of an escape of one letter. -/
def simpleEscape? : Char → Option Char
  | '"' => some '"'
  | '\\' => some '\\'
  | '/' => some '/'
  | 'b' => some '\x08'
  | 'f' => some '\x0c'
  | 'n' => some '\n'
  | 'r' => some '\r'
  | 't' => some '\t'
  | _ => none

/-- The text read so far, in reverse, or the first fault; with the high surrogate that still
waits for its other half. -/
structure Pending where
  text : Except Fault (List Char)
  high : Option Nat

namespace Pending

/-- Records a fault, unless one came before. -/
def fail (p : Pending) (f : Fault) : Pending := ⟨p.text.bind fun _ => .error f, none⟩

/-- Adds a character. A surrogate that waits for another half is a fault. -/
def char (p : Pending) (c : Char) : Pending :=
  match p.high with
  | some _ => p.fail .malformed
  | none => ⟨p.text.map (c :: ·), none⟩

/-- Adds a code unit: a character, or half of one. -/
def unit (p : Pending) (n : Nat) : Pending :=
  match p.high with
  | some h =>
    if 0xDC00 ≤ n && n ≤ 0xDFFF then
      ⟨p.text.map (Char.ofNat (0x10000 + (h - 0xD800) * 0x400 + (n - 0xDC00)) :: ·), none⟩
    else p.fail .malformed
  | none =>
    if 0xD800 ≤ n && n ≤ 0xDBFF then ⟨p.text, some n⟩
    else if 0xDC00 ≤ n && n ≤ 0xDFFF then p.fail .malformed
    else ⟨p.text.map (Char.ofNat n :: ·), none⟩

/-- The string, once its closing quote is reached. -/
def close (p : Pending) : Except Fault String :=
  match p.high with
  | some _ => (p.fail .malformed).text.map fun cs => String.ofList cs.reverse
  | none => p.text.map fun cs => String.ofList cs.reverse

/-- The string of a text that breaks off with a fault. -/
def breakOff (p : Pending) (f : Fault) : Piece (Except Fault String) :=
  ⟨(p.fail f).text.map fun cs => String.ofList cs.reverse, .error f⟩

end Pending

/-- Reads a string after its opening quote. -/
def readString (p : Pending) : List Char → Piece (Except Fault String)
  | [] => p.breakOff .unfinished
  | '"' :: rest => ⟨p.close, .ok rest⟩
  | ['\\'] => p.breakOff .unfinished
  | '\\' :: 'u' :: a :: b :: c :: d :: rest =>
    match hexUnit? a b c d with
    | some n => readString (p.unit n) rest
    | none => p.breakOff .malformed
  | '\\' :: 'u' :: few =>
    p.breakOff (if (String.ofList few).utf8ByteSize < 4 then .unfinished else .malformed)
  | '\\' :: e :: rest =>
    match simpleEscape? e with
    | some c => readString (p.char c) rest
    | none => p.breakOff .malformed
  | c :: rest =>
    if c.toNat < 0x20 then p.breakOff .malformed else readString (p.char c) rest

/-- A number that breaks off where a digit has to stand: at the end of the text the number is
unfinished, but one who passes over it calls it malformed. -/
def brokenNumber (rest : List Char) : Piece Draft :=
  ⟨.scalar (.error (if rest.isEmpty then .unfinished else .malformed)) (some .malformed),
    .error .malformed⟩

/-- The exponent of a number, if there is one: its value and the rest, or `none` for the rest
where digits are missing. -/
def readExponent (cs : List Char) : Except (List Char) (Option Int × List Char) :=
  match cs with
  | c :: rest =>
    if c == 'e' || c == 'E' then
      let (minus, body) := Numeral.takeSign rest
      let ds := body.takeWhile Numeral.isDigit
      if ds.isEmpty then .error body
      else
        let n : Int := Numeral.ofDigits ds
        .ok (some (if minus then -n else n), body.dropWhile Numeral.isDigit)
    else .ok (none, cs)
  | [] => .ok (none, [])

/-- The fraction of a number, if there is one. -/
def readFraction (cs : List Char) : Except (List Char) (Option (List Char) × List Char) :=
  match cs with
  | '.' :: rest =>
    let ds := rest.takeWhile Numeral.isDigit
    if ds.isEmpty then .error rest else .ok (some ds, rest.dropWhile Numeral.isDigit)
  | _ => .ok (none, cs)

/-- Reads a number after its sign. -/
def readNumber (negative : Bool) (cs : List Char) : Piece Draft :=
  let whole := cs.takeWhile Numeral.isDigit
  if whole.isEmpty then brokenNumber cs
  else if whole.length ≠ 1 && whole.head? == some '0' then ⟨fault .malformed, .error .malformed⟩
  else
    match readFraction (cs.dropWhile Numeral.isDigit) with
    | .error rest => brokenNumber rest
    | .ok (fraction, rest) =>
      match readExponent rest with
      | .error rest => brokenNumber rest
      | .ok (exponent, rest) =>
        let read := match JsonNumber.ofParts? negative whole fraction exponent with
          | some n => .ok (.number n)
          | none => .error .malformed
        ⟨.scalar read none, .ok rest⟩

/-- Reads the rest of a word. -/
def readWord (value : Scalar) : List Char → List Char → Piece Draft
  | [], rest => ⟨.scalar (.ok value) none, .ok rest⟩
  | _ :: _, [] => ⟨fault .unfinished, .error .unfinished⟩
  | w :: word, c :: rest =>
    if c = w then readWord value word rest else ⟨fault .malformed, .error .malformed⟩

/-- Reads a value without parts. -/
def readScalar (cs : List Char) : Piece Draft :=
  match cs with
  | [] => ⟨fault .unfinished, .error .unfinished⟩
  | '"' :: rest =>
    let piece := readString ⟨.ok [], none⟩ rest
    let skipped := match piece.rest with
      | .ok _ => none
      | .error f => some f
    ⟨.scalar (piece.value.map .string) skipped, piece.rest⟩
  | '-' :: rest => readNumber true rest
  | 'n' :: rest => readWord .null ['u', 'l', 'l'] rest
  | 't' :: rest => readWord (.bool true) ['r', 'u', 'e'] rest
  | 'f' :: rest => readWord (.bool false) ['a', 'l', 's', 'e'] rest
  | c :: _ => if Numeral.isDigit c then readNumber false cs
    else ⟨fault .malformed, .error .malformed⟩

/-! ## Arrays and objects

The functions call each other once for each bracket, separator or scalar of the text, so a fuel of
twice the length of the text always suffices. -/

mutual

/-- Reads a value that starts here. -/
def readValue : Nat → List Char → Piece Draft
  | 0, _ => ⟨fault .malformed, .error .malformed⟩
  | fuel + 1, cs =>
    match cs with
    | '[' :: rest =>
      match skipGap rest with
      | [] => ⟨.array [] (some .unfinished), .error .unfinished⟩
      | ']' :: rest => ⟨.array [] none, .ok rest⟩
      | rest =>
        let piece := readItems fuel rest
        ⟨.array piece.value.1 piece.value.2, piece.rest⟩
    | '\x7b' :: rest =>
      match skipGap rest with
      | [] => ⟨.object [] (some .unfinished), .error .unfinished⟩
      | '\x7d' :: rest => ⟨.object [] none, .ok rest⟩
      | rest =>
        let piece := readMembers fuel rest
        ⟨.object piece.value.1 piece.value.2, piece.rest⟩
    | cs => readScalar cs

/-- Reads the items of an array from the start of one. -/
def readItems : Nat → List Char → Piece (List Draft × Option Fault)
  | 0, _ => ⟨([], some .malformed), .error .malformed⟩
  | fuel + 1, cs =>
    let first := readValue fuel cs
    match first.rest with
    | .error f => ⟨([first.value], some f), .error f⟩
    | .ok rest =>
      match skipGap rest with
      | [] => ⟨([first.value], some .unfinished), .error .unfinished⟩
      | ']' :: rest => ⟨([first.value], none), .ok rest⟩
      | ',' :: rest =>
        let others := readItems fuel (skipGap rest)
        ⟨(first.value :: others.value.1, others.value.2), others.rest⟩
      | _ => ⟨([first.value], some .malformed), .error .malformed⟩

/-- Reads the members of an object from the start of one. -/
def readMembers : Nat → List Char → Piece (List (Except Fault String × Draft) × Option Fault)
  | 0, _ => ⟨([], some .malformed), .error .malformed⟩
  | fuel + 1, cs =>
    match cs with
    | [] => ⟨([], some .unfinished), .error .unfinished⟩
    | '"' :: rest =>
      let key := readString ⟨.ok [], none⟩ rest
      match key.rest with
      | .error f => ⟨([(key.value, fault f)], some f), .error f⟩
      | .ok rest =>
        match skipGap rest with
        | [] => ⟨([(key.value, fault .unfinished)], some .unfinished), .error .unfinished⟩
        | ':' :: rest =>
          let first := readValue fuel (skipGap rest)
          match first.rest with
          | .error f => ⟨([(key.value, first.value)], some f), .error f⟩
          | .ok rest =>
            match skipGap rest with
            | [] => ⟨([(key.value, first.value)], some .unfinished), .error .unfinished⟩
            | '\x7d' :: rest => ⟨([(key.value, first.value)], none), .ok rest⟩
            | ',' :: rest =>
              let others := readMembers fuel (skipGap rest)
              ⟨((key.value, first.value) :: others.value.1, others.value.2), others.rest⟩
            | _ => ⟨([(key.value, first.value)], some .malformed), .error .malformed⟩
        | _ => ⟨([(key.value, fault .malformed)], some .malformed), .error .malformed⟩
    | _ => ⟨([], some .malformed), .error .malformed⟩

end

/-! ## Passing over a draft -/

mutual

/-- The first fault that is met when the draft is passed over. -/
def skip : Draft → Option Fault
  | .scalar _ skipped => skipped
  | .array items ending => (skipItems items).or ending
  | .object members ending => (skipMembers members).or ending
termination_by structural d => d

/-- The first fault of the items. -/
def skipItems : List Draft → Option Fault
  | [] => none
  | item :: rest => (skip item).or (skipItems rest)
termination_by structural items => items

/-- The first fault of the members. -/
def skipMembers : List (Except Fault String × Draft) → Option Fault
  | [] => none
  | (_, value) :: rest => (skip value).or (skipMembers rest)
termination_by structural members => members

end

/-! ## The value of a draft -/

/-- A scalar as a value. -/
def Scalar.toJson : Scalar → Json
  | .null => .null
  | .bool b => .bool b
  | .number n => .number n
  | .string s => .string s

/-- Reports the fault at the end of an array or object. -/
def endWith {α : Type} (value : α) : Option Fault → Except Fault α
  | none => .ok value
  | some f => .error f

mutual

/-- The value of the draft, or its first fault. Arrays and objects nest at most `room` deep. -/
def toJson (room : Nat) : Draft → Except Fault Json
  | .scalar read _ => read.map Scalar.toJson
  | .array items ending =>
    match room with
    | 0 => .error .malformed
    | room + 1 => do
      let values ← itemsToJson room items
      endWith (.array values) ending
  | .object members ending =>
    match room with
    | 0 => .error .malformed
    | room + 1 => do
      let values ← membersToJson room members
      endWith (.object (Json.collectMembers values)) ending
termination_by structural d => d

/-- The values of the items. -/
def itemsToJson (room : Nat) : List Draft → Except Fault (List Json)
  | [] => .ok []
  | item :: rest => do
    let value ← toJson room item
    return value :: (← itemsToJson room rest)
termination_by structural items => items

/-- The names and values of the members, in the order of the text. -/
def membersToJson (room : Nat) :
    List (Except Fault String × Draft) → Except Fault (List (String × Json))
  | [] => .ok []
  | (key, item) :: rest => do
    let name ← key
    let value ← toJson room item
    return (name, value) :: (← membersToJson room rest)
termination_by structural members => members

end

/-! ## The draft of a value -/

/-- A value as a scalar. -/
def ofScalar (s : Scalar) : Draft := .scalar (.ok s) none

mutual

/-- The draft that a faultless text of the value has. -/
def ofJson : Json → Draft
  | .null => ofScalar .null
  | .bool b => ofScalar (.bool b)
  | .number n => ofScalar (.number n)
  | .string s => ofScalar (.string s)
  | .array items => .array (ofItems items) none
  | .object members => .object (ofMembers members) none
termination_by structural j => j

/-- The drafts of the items. -/
def ofItems : List Json → List Draft
  | [] => []
  | item :: rest => ofJson item :: ofItems rest
termination_by structural items => items

/-- The drafts of the members. -/
def ofMembers : List (String × Json) → List (Except Fault String × Draft)
  | [] => []
  | (name, value) :: rest => (.ok name, ofJson value) :: ofMembers rest
termination_by structural members => members

end

mutual

/-- The draft of a value has no faults to pass over. -/
theorem skip_ofJson (j : Json) : skip (ofJson j) = none := by
  match j with
  | .null | .bool _ | .number _ | .string _ => rfl
  | .array items => simp [ofJson, skip, skipItems_ofItems items]
  | .object members => simp [ofJson, skip, skipMembers_ofMembers members]
termination_by structural j

/-- The drafts of items have no faults to pass over. -/
theorem skipItems_ofItems (items : List Json) : skipItems (ofItems items) = none := by
  match items with
  | [] => rfl
  | item :: rest => simp [ofItems, skipItems, skip_ofJson item, skipItems_ofItems rest]
termination_by structural items

/-- The drafts of members have no faults to pass over. -/
theorem skipMembers_ofMembers (members : List (String × Json)) :
    skipMembers (ofMembers members) = none := by
  match members with
  | [] => rfl
  | (_, value) :: rest =>
    simp [ofMembers, skipMembers, skip_ofJson value, skipMembers_ofMembers rest]
termination_by structural members

end

end Draft

/-- A document: the draft of its value, and whether anything but a gap comes after it. -/
structure Document where
  value : Draft
  trailing : Bool

namespace Document

/-- Arrays and objects may nest this deep where their content is wanted. -/
def maxDepth : Nat := 127

/-- Reads a whole text. -/
def read (text : String) : Document :=
  let cs := text.toList
  let piece := Draft.readValue (2 * cs.length + 3) (Draft.skipGap cs)
  let trailing := match piece.rest with
    | .ok rest => !(Draft.skipGap rest).isEmpty
    | .error _ => false
  ⟨piece.value, trailing⟩

/-- Reports what comes after the value of a document. -/
def endOfText {α : Type} (d : Document) (value : α) : Except Fault α :=
  if d.trailing then .error .malformed else .ok value

end Document

/-- The value of a JSON text. -/
def Json.parse (text : String) : Except Fault Json :=
  let d := Document.read text
  d.value.toJson Document.maxDepth >>= d.endOfText

end WebForm
