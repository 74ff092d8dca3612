import WebForm.Source.Literal
import WebForm.Source.Style
/-!
# Tokens of generated code

Generated code is text, and what it means is settled by reading it as its language does. The first
step cuts the text into tokens: words, numbers, string literals, regular expression literals and
marks. The cutter is an automaton over characters, so that it needs no look-ahead and what it does
on a text is put together from what it does on the pieces of the text.

Most pieces that are written start and end between two tokens; `Reads` says which tokens such a
piece is cut into. Comments are not part of the language here.
-/

set_option autoImplicit false

namespace WebForm.Script

open Source

/-- A token. -/
inductive Token where
  | word (s : String)
  | number (s : String)
  /-- A string literal, by the text that it stands for. -/
  | string (s : String)
  /-- A regular expression literal, by the text between its slashes. -/
  | regex (body : String)
  /-- Punctuation or an operator. -/
  | mark (s : String)
deriving DecidableEq, Repr

/-- Where the cutter stands: between tokens, or in one, of which it has seen some characters. -/
inductive Mode where
  | between
  | word (cs : List Char)
  | number (cs : List Char)
  | operator (cs : List Char)
  | string (cs : List Char)
  /-- Behind a backslash in a string. -/
  | escape (cs : List Char)
  /-- In a regular expression, where a slash inside a class does not end it. -/
  | regex (inClass : Bool) (cs : List Char)
  /-- Behind a backslash in a regular expression. -/
  | regexEscape (inClass : Bool) (cs : List Char)
deriving DecidableEq, Repr

/-! ## Cutting -/

/-- Characters that stand between tokens. -/
def isBlank (c : Char) : Bool := c == ' ' || c == '\t' || c == '\n' || c == '\r'

/-- Characters that are a token each. -/
def isPunctuation (c : Char) : Bool :=
  ['(', ')', '[', ']', '\x7b', '\x7d', ',', ';', ':', '.'].contains c

/-- Characters that operators are made of. -/
def isOperatorPart (c : Char) : Bool := c == '=' || c == '<' || c == '>'

/-- Characters that a number may start with. -/
def isNumberStart (c : Char) : Bool := c.isDigit || c == '-'

/-- Characters that a number may go on with. -/
def isNumberPart (c : Char) : Bool := c.isDigit || c == '.'

/-- Characters that end a line and may not stand in a string. -/
def isLineEnd (c : Char) : Bool := c == '\n' || c == '\r'

/-- Characters that end a line and may not stand in a regular expression. -/
def isLineTerminator (c : Char) : Bool := isLineEnd c || c == '\u2028' || c == '\u2029'

/-- What a character behind a backslash stands for in a string. -/
def unescape? : Char → Option Char
  | 'n' => some '\n'
  | 'r' => some '\r'
  | 't' => some '\t'
  | '\\' => some '\\'
  | '\x27' => some '\x27'
  | _ => none

/-- Whether what is behind a character of a regular expression is inside a class. -/
def isInClassAfter (inClass : Bool) (c : Char) : Bool := c == '[' || (inClass && c != ']')

/-- What a character starts that stands between tokens. -/
def Mode.start (c : Char) : Option (List Token × Mode) :=
  if isBlank c then some ([], .between)
  else if isPunctuation c then some ([.mark (String.singleton c)], .between)
  else if isOperatorPart c then some ([], .operator [c])
  else if isIdentifierStart c then some ([], .word [c])
  else if isNumberStart c then some ([], .number [c])
  else if c == '\x27' then some ([], .string [])
  else if c == '/' then some ([], .regex false [])
  else none

/-- A token that ends before a character. -/
def Mode.startAfter (t : Token) (c : Char) : Option (List Token × Mode) :=
  (start c).map fun (ts, m) => (t :: ts, m)

/-- What one more character does: the tokens that are complete then, and where it leads. -/
def Mode.step : Mode → Char → Option (List Token × Mode)
  | .between, c => start c
  | .word cs, c =>
    if isIdentifierPart c then some ([], .word (cs ++ [c]))
    else startAfter (.word (String.ofList cs)) c
  | .number cs, c =>
    if isNumberPart c then some ([], .number (cs ++ [c]))
    else startAfter (.number (String.ofList cs)) c
  | .operator cs, c =>
    if isOperatorPart c then some ([], .operator (cs ++ [c]))
    else startAfter (.mark (String.ofList cs)) c
  | .string cs, c =>
    if c = '\x27' then some ([.string (String.ofList cs)], .between)
    else if c = '\\' then some ([], .escape cs)
    else if isLineEnd c then none
    else some ([], .string (cs ++ [c]))
  | .escape cs, c => (unescape? c).map fun d => ([], .string (cs ++ [d]))
  | .regex inClass cs, c =>
    -- two slashes, or a slash and an asterisk, would open a comment
    if c = '/' ∧ inClass = false then
      if cs = [] then none else some ([.regex (String.ofList cs)], .between)
    else if c = '*' ∧ cs = [] then none
    else if c = '\\' then some ([], .regexEscape inClass cs)
    else if isLineTerminator c then none
    else some ([], .regex (isInClassAfter inClass c) (cs ++ [c]))
  | .regexEscape inClass cs, c =>
    if isLineTerminator c then none else some ([], .regex inClass (cs ++ ['\\', c]))

/-- What some characters do one after the other. -/
def Mode.run : Mode → List Char → Option (List Token × Mode)
  | m, [] => some ([], m)
  | m, c :: cs =>
    (m.step c).bind fun (ts, m') => (m'.run cs).map fun (us, m'') => (ts ++ us, m'')

/-- The tokens of a text. -/
def tokens? (text : String) : Option (List Token) :=
  (Mode.run .between text.toList).bind fun (ts, m) => if m = .between then some ts else none

/-! ## Pieces -/

/-- The characters of a piece of text lead from one mode to another and complete some tokens. -/
def Mode.Leads (m : Mode) (cs : List Char) (ts : List Token) (m' : Mode) : Prop :=
  m.run cs = some (ts, m')

namespace Mode.Leads

theorem nil (m : Mode) : m.Leads [] [] m := rfl

theorem cons {m m' m'' : Mode} {c : Char} {cs : List Char} {ts us : List Token}
    (hstep : m.step c = some (ts, m')) (hrest : m'.Leads cs us m'') :
    m.Leads (c :: cs) (ts ++ us) m'' := by
  rw [Leads, run, hstep, Option.bind_some]
  dsimp only
  rw [show m'.run cs = some (us, m'') from hrest]
  rfl

/-- The first character of a piece, and the rest. -/
theorem exists_of_cons {m m'' : Mode} {c : Char} {cs : List Char} {ts : List Token}
    (h : m.Leads (c :: cs) ts m'') :
    ∃ first m' rest, m.step c = some (first, m') ∧ m'.Leads cs rest m'' ∧ ts = first ++ rest := by
  obtain ⟨⟨first, m'⟩, hstep, h⟩ := Option.bind_eq_some_iff.mp h
  obtain ⟨⟨rest, last⟩, hrest, h⟩ := Option.map_eq_some_iff.mp h
  obtain ⟨rfl, rfl⟩ := Prod.mk.inj h
  exact ⟨first, m', rest, hstep, hrest, rfl⟩

/-- Pieces are cut one after the other. -/
theorem append {m m' m'' : Mode} {cs ds : List Char} {ts us : List Token}
    (hleft : m.Leads cs ts m') (hright : m'.Leads ds us m'') :
    m.Leads (cs ++ ds) (ts ++ us) m'' := by
  induction cs generalizing m ts with
  | nil =>
    obtain ⟨rfl, rfl⟩ := Prod.mk.inj (Option.some.inj hleft)
    exact hright
  | cons c cs ih =>
    obtain ⟨first, next, rest, hstep, hrest, rfl⟩ := exists_of_cons hleft
    rw [List.append_assoc]
    exact cons hstep (ih hrest)

/-- A token that is ended by the character behind it adds itself to what this character starts. -/
theorem of_startAfter {m m' : Mode} {t : Token} {c : Char} {cs : List Char} {ts : List Token}
    (hstep : m.step c = startAfter t c) (hrest : between.Leads (c :: cs) ts m') :
    m.Leads (c :: cs) (t :: ts) m' := by
  obtain ⟨first, next, rest, hstart, htail, rfl⟩ := exists_of_cons hrest
  have hnext : m.step c = some (t :: first, next) := by
    rw [hstep, startAfter, show start c = some (first, next) from hstart]
    rfl
  exact cons hnext htail

end Mode.Leads

/-- A piece of text that starts and ends between tokens is cut into some tokens. -/
def Reads (text : String) (ts : List Token) : Prop := Mode.between.Leads text.toList ts .between

theorem tokens?_of_reads {text : String} {ts : List Token} (h : Reads text ts) :
    tokens? text = some ts := by
  rw [tokens?, show Mode.run .between text.toList = some (ts, .between) from h]
  rfl

namespace Reads

theorem empty : Reads "" [] := rfl

theorem append {a b : String} {ts us : List Token} (ha : Reads a ts) (hb : Reads b us) :
    Reads (a ++ b) (ts ++ us) := by
  rw [Reads, String.toList_append]
  exact Mode.Leads.append ha hb

end Reads

/-! ## String literals -/

/-- An escaped character adds the character that it stands for. -/
theorem Mode.leads_escapeStringChar (cs : List Char) (c : Char) :
    (string cs).Leads (escapeStringChar c) [] (string (cs ++ [c])) := by
  unfold escapeStringChar
  split
  · rfl
  · rfl
  · rfl
  · rfl
  · rfl
  · next hbackslash hquote hline hreturn htab =>
    have hend : isLineEnd c = false := by
      rw [isLineEnd, Bool.or_eq_false_iff]
      exact ⟨beq_eq_false_iff_ne.mpr hline, beq_eq_false_iff_ne.mpr hreturn⟩
    have hstep : (string cs).step c = some ([], string (cs ++ [c])) := by
      rw [step, if_neg hquote, if_neg hbackslash, hend, if_neg Bool.false_ne_true]
    exact Leads.cons hstep (Leads.nil _)

theorem Mode.leads_flatMap_escapeStringChar (cs s : List Char) :
    (string cs).Leads (s.flatMap escapeStringChar) [] (string (cs ++ s)) := by
  induction s generalizing cs with
  | nil =>
    rw [List.append_nil]
    exact Leads.nil _
  | cons c rest ih =>
    -- every character is unescaped by itself
    rw [List.flatMap_cons, show cs ++ c :: rest = cs ++ [c] ++ rest by simp]
    exact Leads.append (leads_escapeStringChar cs c) (ih (cs ++ [c]))

/-- A quoted text is cut into one string literal that stands for the text. -/
theorem reads_quote (s : String) : Reads (quote s) [.string s] := by
  have hopen : Mode.between.Leads ['\x27'] [] (.string []) := rfl
  have hclose : (Mode.string s.toList).Leads ['\x27'] [.string s] .between := by
    have hstep : (Mode.string s.toList).step '\x27' =
        some ([.string (String.ofList s.toList)], .between) := rfl
    rw [String.ofList_toList] at hstep
    exact Mode.Leads.cons hstep (Mode.Leads.nil _)
  rw [Reads, quote, String.toList_append, String.toList_append, toList_escapeString]
  exact Mode.Leads.append
    (Mode.Leads.append hopen (Mode.leads_flatMap_escapeStringChar [] s.toList)) hclose

/-! ## Regular expression literals -/

/-- Whether a regular expression leaves an escape or a class open at its end. -/
def leavesOpen (escaped inClass : Bool) : List Char → Bool
  | [] => escaped || inClass
  | c :: rest =>
    if escaped then leavesOpen false inClass rest
    else if c = '\\' then leavesOpen true inClass rest
    else leavesOpen false (isInClassAfter inClass c) rest

/-- A pattern that can stand between slashes: something on one line that opens no comment and
leaves nothing open at its end. -/
structure IsDelimitable (pattern : String) : Prop where
  nonempty : pattern ≠ ""
  noComment : pattern.toList.head? ≠ some '*'
  oneLine : pattern.toList.any isLineTerminator = false
  closed : leavesOpen false false pattern.toList = false

/-- Where the cutter stands in a regular expression, with `cs` before a backslash that escapes. -/
def Mode.inRegex (escaped inClass : Bool) (cs : List Char) : Mode :=
  if escaped then .regexEscape inClass cs else .regex inClass cs

theorem Mode.step_regex {inClass : Bool} {cs : List Char} {c : Char} (hslash : c ≠ '/')
    (hbackslash : c ≠ '\\') (hcomment : ¬ (c = '*' ∧ cs = []))
    (hline : isLineTerminator c = false) :
    (regex inClass cs).step c = some ([], .regex (isInClassAfter inClass c) (cs ++ [c])) := by
  rw [step, if_neg (fun h => hslash h.1), if_neg hcomment, if_neg hbackslash, hline,
    if_neg Bool.false_ne_true]

/-- Escaped slashes are passed over like everything else in a regular expression. -/
theorem Mode.leads_escapeSlashes {rest : List Char}
    (hline : ∀ c ∈ rest, isLineTerminator c = false) {escaped inClass : Bool} {cs : List Char}
    (hclosed : leavesOpen escaped inClass rest = false)
    (hcomment : escaped = false → cs = [] → rest.head? ≠ some '*') :
    (inRegex escaped inClass cs).Leads (escapeSlashes escaped rest) []
      (.regex false (cs ++ (if escaped then ['\\'] else []) ++ escapeSlashes escaped rest)) := by
  induction rest generalizing escaped inClass cs with
  | nil =>
    rw [leavesOpen, Bool.or_eq_false_iff] at hclosed
    obtain ⟨rfl, rfl⟩ := hclosed
    rw [if_neg Bool.false_ne_true, escapeSlashes, List.append_nil, List.append_nil]
    exact Leads.nil _
  | cons c rest ih =>
    rw [List.forall_mem_cons] at hline
    cases escaped with
    | true =>
      have hstep : (inRegex true inClass cs).step c =
          some ([], .regex inClass (cs ++ ['\\', c])) := by
        rw [inRegex, if_pos rfl, step, hline.1, if_neg Bool.false_ne_true]
      have hrest := @ih hline.2 false inClass (cs ++ ['\\', c]) hclosed (by simp)
      rw [escapeSlashes_escaped, if_pos rfl]
      simpa [inRegex] using Leads.cons hstep hrest
    | false =>
      have hfirst : ¬ (c = '*' ∧ cs = []) := fun h => hcomment rfl h.2 (by rw [h.1]; rfl)
      by_cases hslash : c = '/'
      · subst hslash
        -- the backslash that is put in takes the slash with it
        have hbackslash : (inRegex false inClass cs).step '\\' =
            some ([], .regexEscape inClass cs) := rfl
        have hstep : (regexEscape inClass cs).step '/' =
            some ([], .regex inClass (cs ++ ['\\', '/'])) := rfl
        have hopen : leavesOpen false inClass rest = false := by
          simpa [leavesOpen, isInClassAfter] using hclosed
        have hrest := @ih hline.2 false inClass (cs ++ ['\\', '/']) hopen (by simp)
        rw [escapeSlashes_slash, if_neg Bool.false_ne_true]
        simpa [inRegex] using Leads.cons hbackslash (Leads.cons hstep hrest)
      · by_cases hbackslash : c = '\\'
        · subst hbackslash
          have hstep : (inRegex false inClass cs).step '\\' =
              some ([], .regexEscape inClass cs) := rfl
          have hopen : leavesOpen true inClass rest = false := by
            simpa [leavesOpen] using hclosed
          have hrest := @ih hline.2 true inClass cs hopen (by simp)
          rw [escapeSlashes_backslash, if_neg Bool.false_ne_true]
          simpa [inRegex] using Leads.cons hstep hrest
        -- anything else may open or close a class
        · have hstep := @step_regex inClass cs c hslash hbackslash hfirst hline.1
          have hopen : leavesOpen false (isInClassAfter inClass c) rest = false := by
            simpa [leavesOpen, hbackslash] using hclosed
          have hrest := @ih hline.2 false _ (cs ++ [c]) hopen (by simp)
          rw [escapeSlashes_plain hslash hbackslash, if_neg Bool.false_ne_true]
          simpa [inRegex] using Leads.cons hstep hrest

/-- A pattern between slashes is cut into one regular expression. -/
theorem reads_regex {pattern : String} (h : IsDelimitable pattern) :
    Reads ("/" ++ escapeRegex pattern ++ "/") [.regex (escapeRegex pattern)] := by
  have hopen : Mode.between.Leads ['/'] [] (.regex false []) := rfl
  have hbody : (Mode.regex false []).Leads (escapeRegex pattern).toList []
      (.regex false (escapeRegex pattern).toList) := by
    rw [escapeRegex, String.toList_ofList]
    have hline : ∀ c ∈ pattern.toList, isLineTerminator c = false :=
      fun c hc => Bool.eq_false_iff.mpr (List.any_eq_false.mp h.oneLine c hc)
    exact Mode.leads_escapeSlashes hline h.closed fun _ _ => h.noComment
  -- two slashes in a row would be a comment, so something has to be between them
  have hne : (escapeRegex pattern).toList ≠ [] := by
    rw [escapeRegex, String.toList_ofList]
    cases hchars : pattern.toList with
    | nil => exact absurd (String.toList_eq_nil_iff.mp hchars) h.nonempty
    | cons c rest =>
      rw [escapeSlashes]
      split <;> exact List.cons_ne_nil _ _
  have hclose : (Mode.regex false (escapeRegex pattern).toList).Leads ['/']
      [.regex (escapeRegex pattern)] .between := by
    have hstep : (Mode.regex false (escapeRegex pattern).toList).step '/' =
        some ([.regex (escapeRegex pattern)], .between) := by
      rw [Mode.step, if_pos ⟨rfl, rfl⟩, if_neg hne, String.ofList_toList]
    exact Mode.Leads.cons hstep (Mode.Leads.nil _)
  rw [Reads, String.toList_append, String.toList_append]
  exact Mode.Leads.append (Mode.Leads.append hopen hbody) hclose

/-! ## Words and numbers

These end before a character that does not belong to them, so they are cut together with the piece
that starts with this character. -/

/-- The characters that end a word or a number. -/
def separators : List Char :=
  [' ', '\t', '\n', '\r', '(', ')', '[', ']', '\x7b', '\x7d', ',', ';', ':', '.', '=', '<', '>']

/-- What is no separator starts a word, a number or a literal. -/
theorem Mode.start_of_not_mem_separators {c : Char} (h : c ∉ separators) :
    start c =
      if isIdentifierStart c then some ([], .word [c])
      else if isNumberStart c then some ([], .number [c])
      else if c == '\x27' then some ([], .string [])
      else if c == '/' then some ([], .regex false [])
      else none := by
  simp only [separators, List.mem_cons, List.not_mem_nil, or_false, not_or] at h
  have hblank : isBlank c = false := by simp [isBlank, h]
  have hmark : isPunctuation c = false := by simp [isPunctuation, h]
  have hoperator : isOperatorPart c = false := by simp [isOperatorPart, h]
  rw [start, hblank, if_neg Bool.false_ne_true, hmark, if_neg Bool.false_ne_true, hoperator,
    if_neg Bool.false_ne_true]

theorem Mode.start_of_isIdentifierStart {c : Char} (h : isIdentifierStart c = true) :
    start c = some ([], .word [c]) := by
  have hseparator : c ∉ separators := by
    intro hc
    have hnone : separators.all (fun d => !isIdentifierStart d) = true := rfl
    have hstart : (!isIdentifierStart c) = true := List.all_eq_true.mp hnone c hc
    rw [h] at hstart
    cases hstart
  rw [start_of_not_mem_separators hseparator, if_pos h]

theorem not_isIdentifierStart_of_isDigit {c : Char} (h : c.isDigit = true) :
    isIdentifierStart c = false := by
  have halpha : c.isAlpha = false := by
    delta Char.isAlpha Char.isUpper Char.isLower
    delta Char.isDigit at h
    grind
  have hunderscore : c ≠ '_' := by
    rintro rfl
    exact absurd h (by decide)
  have hdollar : c ≠ '$' := by
    rintro rfl
    exact absurd h (by decide)
  simp [isIdentifierStart, halpha, hunderscore, hdollar]

theorem Mode.start_of_isNumberStart {c : Char} (h : isNumberStart c = true) :
    start c = some ([], .number [c]) := by
  have hseparator : c ∉ separators := by
    intro hc
    have hnone : separators.all (fun d => !isNumberStart d) = true := rfl
    have hstart : (!isNumberStart c) = true := List.all_eq_true.mp hnone c hc
    rw [h] at hstart
    cases hstart
  have hidentifier : isIdentifierStart c = false := by
    rcases (Bool.or_eq_true _ _).mp h with hdigit | hminus
    · exact not_isIdentifierStart_of_isDigit hdigit
    · rw [eq_of_beq hminus]
      decide
  rw [start_of_not_mem_separators hseparator, hidentifier, if_neg Bool.false_ne_true]
  exact if_pos h

/-- Whether a text is written like a number. -/
def isNumberText (s : String) : Bool :=
  match s.toList with
  | [] => false
  | c :: rest => isNumberStart c && rest.all isNumberPart

section
variable {mode : List Char → Mode} {part : Char → Bool} {token : String → Token}

/-- In a token that goes on as long as some characters come, these characters add themselves. -/
theorem Mode.leads_of_step
    (hstep : ∀ cs c, (mode cs).step c =
      if part c then some ([], mode (cs ++ [c])) else startAfter (token (String.ofList cs)) c)
    (cs : List Char) {rest : List Char} (h : rest.all part = true) :
    (mode cs).Leads rest [] (mode (cs ++ rest)) := by
  induction rest generalizing cs with
  | nil =>
    rw [List.append_nil]
    exact Leads.nil _
  | cons c rest ih =>
    rw [List.all_cons, Bool.and_eq_true] at h
    have hpart : (mode cs).step c = some ([], mode (cs ++ [c])) := by rw [hstep, if_pos h.1]
    rw [show cs ++ c :: rest = cs ++ [c] ++ rest by simp]
    exact Leads.cons hpart (ih (cs ++ [c]) h.2)

/-- A token that goes on as long as some characters come ends before a piece that starts with
another one. -/
theorem Reads.append_of_step
    (hstep : ∀ cs c, (mode cs).step c =
      if part c then some ([], mode (cs ++ [c])) else Mode.startAfter (token (String.ofList cs)) c)
    {s rest : String} {c d : Char} {cs ds : List Char} {ts : List Token}
    (hs : s.toList = d :: ds) (hd : Mode.start d = some ([], mode [d]))
    (hds : ds.all part = true) (hrest : rest.toList = c :: cs) (hc : part c = false)
    (h : Reads rest ts) : Reads (s ++ rest) (token s :: ts) := by
  have hopen : Mode.between.Leads [d] [] (mode [d]) :=
    Mode.Leads.cons (show Mode.between.step d = some ([], mode [d]) from hd) (Mode.Leads.nil _)
  have htoken : Mode.between.Leads s.toList [] (mode s.toList) := by
    rw [hs]
    exact Mode.Leads.append hopen (Mode.leads_of_step hstep [d] hds)
  have hclose : (mode s.toList).step c = Mode.startAfter (token s) c := by
    rw [hstep, hc, if_neg Bool.false_ne_true, String.ofList_toList]
  rw [Reads, hrest] at h
  rw [Reads, String.toList_append, hrest]
  exact Mode.Leads.append htoken (Mode.Leads.of_startAfter hclose h)

end

/-- An identifier is a word, before a piece that starts with another character. -/
theorem Reads.word_append {s rest : String} {c : Char} {cs : List Char} {ts : List Token}
    (hs : isIdentifier s = true) (hrest : rest.toList = c :: cs)
    (hc : isIdentifierPart c = false) (h : Reads rest ts) :
    Reads (s ++ rest) (.word s :: ts) := by
  rw [isIdentifier] at hs
  cases hchars : s.toList with
  | nil =>
    rw [hchars] at hs
    cases hs
  | cons d ds =>
    rw [hchars, Bool.and_eq_true] at hs
    exact append_of_step (fun _ _ => rfl) hchars (Mode.start_of_isIdentifierStart hs.1) hs.2
      hrest hc h

/-- A number is a token, before a piece that starts with another character. -/
theorem Reads.number_append {s rest : String} {c : Char} {cs : List Char} {ts : List Token}
    (hs : isNumberText s = true) (hrest : rest.toList = c :: cs)
    (hc : isNumberPart c = false) (h : Reads rest ts) :
    Reads (s ++ rest) (.number s :: ts) := by
  rw [isNumberText] at hs
  cases hchars : s.toList with
  | nil =>
    rw [hchars] at hs
    cases hs
  | cons d ds =>
    rw [hchars, Bool.and_eq_true] at hs
    exact append_of_step (fun _ _ => rfl) hchars (Mode.start_of_isNumberStart hs.1) hs.2
      hrest hc h

/-- The token of a key: a word if it is an identifier, else a string literal. -/
def keyToken (name : String) : Token :=
  if isIdentifier name then .word name else .string name

/-- A key is cut into one token, before a piece that starts with no part of an identifier. -/
theorem Reads.propertyKey_append {name rest : String} {c : Char} {cs : List Char}
    {ts : List Token} (hrest : rest.toList = c :: cs) (hc : isIdentifierPart c = false)
    (h : Reads rest ts) : Reads (propertyKey name ++ rest) (keyToken name :: ts) := by
  rw [propertyKey, keyToken]
  by_cases hname : isIdentifier name = true
  · rw [if_pos hname, if_pos hname]
    exact word_append hname hrest hc h
  · rw [if_neg hname, if_neg hname]
    exact append (reads_quote name) h

/-! ## Lines

What a piece is cut into does not depend on the line that it stands on. -/

theorem reads_steps (i : Indent) (depth : Nat) : Reads (i.steps depth) [] := by
  induction depth with
  | zero => rfl
  | succ depth ih =>
    have hunit : Reads i.unit [] := by cases i <;> rfl
    rw [Indent.steps, List.replicate_succ, String.join_cons]
    exact Reads.append hunit ih

/-- Lines that are cut into some tokens, in whichever style they are written. -/
def ReadsLines (ls : List Line) (ts : List Token) : Prop :=
  ∀ style : Style, Reads (style.lines ls) ts

namespace ReadsLines

theorem append {ls ms : List Line} {ts us : List Token} (hl : ReadsLines ls ts)
    (hm : ReadsLines ms us) : ReadsLines (ls ++ ms) (ts ++ us) := by
  intro style
  rw [Style.lines_append]
  exact Reads.append (hl style) (hm style)

theorem singleton {depth : Nat} {text : String} {ts : List Token} (h : Reads text ts) :
    ReadsLines [⟨depth, text⟩] ts := by
  intro style
  have hend : Reads style.lineEnding.text [] := by cases style.lineEnding <;> rfl
  have hline : Reads (style.line ⟨depth, text⟩) ts := by
    rw [Style.line]
    by_cases hempty : text = ""
    · subst hempty
      obtain ⟨rfl, -⟩ := Prod.mk.inj (Option.some.inj h)
      exact hend
    · rw [if_neg (by simpa using hempty), ← List.nil_append ts, ← List.append_nil ([] ++ ts)]
      exact Reads.append (Reads.append (reads_steps style.indent depth) h) hend
  rw [Style.lines, List.map_singleton, String.join_cons, String.join_nil, String.append_empty]
  exact hline

theorem cons {depth : Nat} {text : String} {ls : List Line} {ts us : List Token}
    (h : Reads text ts) (hrest : ReadsLines ls us) :
    ReadsLines (⟨depth, text⟩ :: ls) (ts ++ us) := append (singleton h) hrest

end ReadsLines

end WebForm.Script
