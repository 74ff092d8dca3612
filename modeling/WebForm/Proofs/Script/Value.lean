import WebForm.Json.Printer
import WebForm.Proofs.Number.Text
import WebForm.Proofs.Script.Token
/-!
# Values of literals

A grammar of the literals that are values: words, numbers, strings in single quotes, lists between
brackets and records between braces, with blanks between the tokens. `Denotes cs v rest` says that
the characters `cs` start with a literal of the value `v` and that `rest` is behind it. Numbers may
have a fraction and an exponent here, so that there is a literal for each of them.

No text is read in two ways: what a text starts with settles which rule applies, and the rule
settles the value and what is left.
-/

set_option autoImplicit false

namespace WebForm.Script

open Source

/-! ## Tokens -/

/-- The text behind an opening quote, up to the closing one, and what is behind that. -/
def quoted? : List Char → Option (List Char × List Char)
  | [] => none
  | '\x27' :: rest => some ([], rest)
  | '\\' :: c :: rest =>
    (unescape? c).bind fun d => (quoted? rest).map fun (s, tail) => (d :: s, tail)
  | c :: rest =>
    if c = '\\' || isLineEnd c then none
    else (quoted? rest).map fun (s, tail) => (c :: s, tail)

/-- The token that starts with a character, and what is behind it. -/
def tokenAt? (c : Char) (rest : List Char) : Option (Token × List Char) :=
  if isIdentifierStart c then
    let s := String.ofList (c :: rest.takeWhile isIdentifierPart)
    some (.word s, rest.dropWhile isIdentifierPart)
  else if isNumberStart c then
    let s := String.ofList (c :: rest.takeWhile Numeral.isPart)
    some (.number s, rest.dropWhile Numeral.isPart)
  else if c = '\x27' then (quoted? rest).map fun (s, tail) => (.string (String.ofList s), tail)
  else if isPunctuation c then some (.mark (String.singleton c), rest)
  else none

/-- The first token of a text, and what is behind it. -/
def nextToken? : List Char → Option (Token × List Char)
  | [] => none
  | c :: rest => if isBlank c then nextToken? rest else tokenAt? c rest

/-! ## Values -/

/-- Whether a digit stands behind a zero at the start. -/
def leadsWithZero : List Char → Bool
  | '0' :: c :: _ => Numeral.isDigit c
  | _ => false

/-- An integer, if a word holds it. -/
def word? (n : Int) : Option WordInt :=
  if h : -0x8000000000000000 ≤ n ∧ n < 0x10000000000000000 then some ⟨n, h⟩ else none

/-- The integer that some characters are, if a word holds it. They may have no fraction and no
exponent, and zero has no sign. -/
def wordInt? (cs : List Char) (n : Numeral) : Option WordInt :=
  if Numeral.isWhole cs && !(n.negative && n.coefficient == 0) then
    word? (if n.negative then -n.coefficient else n.coefficient)
  else none

/-- The value of a number: an integer that fits a word, else the nearest double. -/
def numberValue? (s : String) : Option JsonNumber :=
  if leadsWithZero (Numeral.takeSign s.toList).2 then none
  else (Numeral.ofChars? s.toList).bind fun n =>
    match wordInt? s.toList n with
    | some i => some (.integer i)
    | none => n.toDouble?.map .double

/-- The value of a token that is a value by itself. -/
def scalar? : Token → Option Json
  | .word s =>
    if s = "null" then some .null
    else if s = "true" then some (.bool true)
    else if s = "false" then some (.bool false)
    else none
  | .number s => (numberValue? s).map .number
  | .string s => some (.string s)
  | _ => none

/-- The name of a token that is a key. -/
def keyName? : Token → Option String
  | .word s => some s
  | .string s => some s
  | _ => none

mutual

/-- A text that starts with a literal of a value. -/
inductive Denotes : List Char → Json → List Char → Prop
  | scalar {cs rest : List Char} {t : Token} {v : Json} (h : nextToken? cs = some (t, rest))
      (hvalue : scalar? t = some v) : Denotes cs v rest
  | list {cs ds rest : List Char} {items : List Json}
      (h : nextToken? cs = some (.mark "[", ds)) (hitems : DenotesItems ds items rest) :
      Denotes cs (.array items) rest
  | record {cs ds rest : List Char} {members : List (String × Json)}
      (h : nextToken? cs = some (.mark "\x7b", ds)) (hmembers : DenotesMembers ds members rest) :
      Denotes cs (.object members) rest

/-- A text that starts with items, commas between them, and the bracket behind them. -/
inductive DenotesItems : List Char → List Json → List Char → Prop
  | nil {cs rest : List Char} (h : nextToken? cs = some (.mark "]", rest)) :
      DenotesItems cs [] rest
  | last {cs ds rest : List Char} {v : Json} (hvalue : Denotes cs v ds)
      (h : nextToken? ds = some (.mark "]", rest)) : DenotesItems cs [v] rest
  | cons {cs ds es rest : List Char} {v : Json} {items : List Json} (hvalue : Denotes cs v ds)
      (h : nextToken? ds = some (.mark ",", es)) (hitems : DenotesItems es items rest) :
      DenotesItems cs (v :: items) rest

/-- A text that starts with a member: a key, a colon and a value. -/
inductive DenotesMember : List Char → String × Json → List Char → Prop
  | mk {cs ds es rest : List Char} {t : Token} {key : String} {v : Json}
      (hkey : nextToken? cs = some (t, ds)) (hname : keyName? t = some key)
      (hcolon : nextToken? ds = some (.mark ":", es)) (hvalue : Denotes es v rest) :
      DenotesMember cs (key, v) rest

/-- A text that starts with members, commas between them, and the brace behind them. -/
inductive DenotesMembers : List Char → List (String × Json) → List Char → Prop
  | nil {cs rest : List Char} (h : nextToken? cs = some (.mark "\x7d", rest)) :
      DenotesMembers cs [] rest
  | last {cs ds rest : List Char} {m : String × Json} (hmember : DenotesMember cs m ds)
      (h : nextToken? ds = some (.mark "\x7d", rest)) : DenotesMembers cs [m] rest
  | cons {cs ds es rest : List Char} {m : String × Json} {members : List (String × Json)}
      (hmember : DenotesMember cs m ds) (h : nextToken? ds = some (.mark ",", es))
      (hmembers : DenotesMembers es members rest) : DenotesMembers cs (m :: members) rest

end

/-! ## Reading in one way -/

/-- What a text starts with is one token. -/
theorem token_unique {cs ds es : List Char} {t u : Token} (h : nextToken? cs = some (t, ds))
    (h' : nextToken? cs = some (u, es)) : t = u ∧ ds = es :=
  Prod.mk.inj (Option.some.inj (h.symm.trans h'))

/-- No literal starts with the end of a list. -/
theorem Denotes.not_close {cs ds rest : List Char} {v : Json} (h : Denotes cs v rest)
    (hclose : nextToken? cs = some (.mark "]", ds)) : False := by
  cases h with
  | scalar h hvalue =>
    obtain ⟨rfl, -⟩ := token_unique h hclose
    cases hvalue
  | list h _ => exact nomatch (token_unique h hclose).1
  | record h _ => exact nomatch (token_unique h hclose).1

/-- No member starts with the end of a record. -/
theorem DenotesMember.not_close {cs ds rest : List Char} {m : String × Json}
    (h : DenotesMember cs m rest) (hclose : nextToken? cs = some (.mark "\x7d", ds)) : False := by
  cases h with
  | mk hkey hname _ _ =>
    obtain ⟨rfl, -⟩ := token_unique hkey hclose
    cases hname

mutual

/-- A text is the literal of one value only, and ends in one place. -/
theorem Denotes.unique {cs rest rest' : List Char} {v w : Json} (h : Denotes cs v rest)
    (h' : Denotes cs w rest') : v = w ∧ rest = rest' := by
  match h, h' with
  | .scalar h hvalue, .scalar h' hvalue' =>
    obtain ⟨rfl, rfl⟩ := token_unique h h'
    exact ⟨Option.some.inj (hvalue.symm.trans hvalue'), rfl⟩
  | .scalar h hvalue, .list h' _ | .scalar h hvalue, .record h' _ =>
    obtain ⟨rfl, -⟩ := token_unique h h'
    cases hvalue
  | .list h _, .scalar h' hvalue | .record h _, .scalar h' hvalue =>
    obtain ⟨rfl, -⟩ := token_unique h h'
    cases hvalue
  | .list h hitems, .list h' hitems' =>
    obtain ⟨-, rfl⟩ := token_unique h h'
    obtain ⟨rfl, rfl⟩ := DenotesItems.unique hitems hitems'
    exact ⟨rfl, rfl⟩
  | .record h hmembers, .record h' hmembers' =>
    obtain ⟨-, rfl⟩ := token_unique h h'
    obtain ⟨rfl, rfl⟩ := DenotesMembers.unique hmembers hmembers'
    exact ⟨rfl, rfl⟩
  | .list h _, .record h' _ | .record h _, .list h' _ => exact nomatch (token_unique h h').1
termination_by structural h

/-- Items are read in one way. -/
theorem DenotesItems.unique {cs rest rest' : List Char} {vs ws : List Json}
    (h : DenotesItems cs vs rest) (h' : DenotesItems cs ws rest') : vs = ws ∧ rest = rest' := by
  match h, h' with
  | .nil h, .nil h' => exact ⟨rfl, (token_unique h h').2⟩
  | .nil h, .last hvalue _ | .nil h, .cons hvalue _ _ => exact (hvalue.not_close h).elim
  | .last hvalue _, .nil h | .cons hvalue _ _, .nil h => exact (hvalue.not_close h).elim
  | .last hvalue h, .last hvalue' h' =>
    obtain ⟨rfl, rfl⟩ := Denotes.unique hvalue hvalue'
    exact ⟨rfl, (token_unique h h').2⟩
  | .last hvalue h, .cons hvalue' h' _ =>
    obtain ⟨rfl, rfl⟩ := Denotes.unique hvalue hvalue'
    exact nomatch (token_unique h h').1
  | .cons hvalue h _, .last hvalue' h' =>
    obtain ⟨rfl, rfl⟩ := Denotes.unique hvalue hvalue'
    exact nomatch (token_unique h h').1
  | .cons hvalue h hitems, .cons hvalue' h' hitems' =>
    obtain ⟨rfl, rfl⟩ := Denotes.unique hvalue hvalue'
    obtain ⟨-, rfl⟩ := token_unique h h'
    obtain ⟨rfl, rfl⟩ := DenotesItems.unique hitems hitems'
    exact ⟨rfl, rfl⟩
termination_by structural h

/-- A member is read in one way. -/
theorem DenotesMember.unique {cs rest rest' : List Char} {m n : String × Json}
    (h : DenotesMember cs m rest) (h' : DenotesMember cs n rest') : m = n ∧ rest = rest' := by
  match h, h' with
  | .mk hkey hname hcolon hvalue, .mk hkey' hname' hcolon' hvalue' =>
    obtain ⟨rfl, rfl⟩ := token_unique hkey hkey'
    obtain ⟨-, rfl⟩ := token_unique hcolon hcolon'
    have hkeys : m.1 = n.1 := Option.some.inj (hname.symm.trans hname')
    obtain ⟨hvalues, rfl⟩ := Denotes.unique hvalue hvalue'
    exact ⟨Prod.ext hkeys hvalues, rfl⟩
termination_by structural h

/-- Members are read in one way. -/
theorem DenotesMembers.unique {cs rest rest' : List Char} {vs ws : List (String × Json)}
    (h : DenotesMembers cs vs rest) (h' : DenotesMembers cs ws rest') :
    vs = ws ∧ rest = rest' := by
  match h, h' with
  | .nil h, .nil h' => exact ⟨rfl, (token_unique h h').2⟩
  | .nil h, .last hmember _ | .nil h, .cons hmember _ _ => exact (hmember.not_close h).elim
  | .last hmember _, .nil h | .cons hmember _ _, .nil h => exact (hmember.not_close h).elim
  | .last hmember h, .last hmember' h' =>
    obtain ⟨rfl, rfl⟩ := DenotesMember.unique hmember hmember'
    exact ⟨rfl, (token_unique h h').2⟩
  | .last hmember h, .cons hmember' h' _ =>
    obtain ⟨rfl, rfl⟩ := DenotesMember.unique hmember hmember'
    exact nomatch (token_unique h h').1
  | .cons hmember h _, .last hmember' h' =>
    obtain ⟨rfl, rfl⟩ := DenotesMember.unique hmember hmember'
    exact nomatch (token_unique h h').1
  | .cons hmember h hmembers, .cons hmember' h' hmembers' =>
    obtain ⟨rfl, rfl⟩ := DenotesMember.unique hmember hmember'
    obtain ⟨-, rfl⟩ := token_unique h h'
    obtain ⟨rfl, rfl⟩ := DenotesMembers.unique hmembers hmembers'
    exact ⟨rfl, rfl⟩
termination_by structural h

end

end WebForm.Script
