import WebForm.Proofs.Component.Outline
/-!
# Names in the code of a component

Which names some code refers to: the words in it that are identifiers, without the members of
something and the keys of objects. Strings hold no names, and of a template literal only its
substitutions do.

Code that stands in markup is between braces. What is outside of them, and what is between double
quotes there, is text. The reader is an automaton over characters, as the cutter of tokens is, but
it goes through everything that can stand on a line of a component: templates, operators and markup.
-/

set_option autoImplicit false

namespace WebForm.Component

open Script Source

/-! ## Reading -/

/-- What is around some code: a statement, or markup with some more braces in between. -/
inductive Around where
  | statement
  | markup (inTag : Bool) (braces : Nat)
deriving DecidableEq, Repr

/-- Where the reader stands. -/
inductive Spot where
  /-- Between elements. -/
  | text
  /-- Among the attributes of an element. -/
  | tag
  /-- Between the double quotes of an attribute. -/
  | quoted
  /-- In code, behind some dots and the first characters of a word. -/
  | code (around : Around) (dots : Nat) (word : List Char)
  | string (around : Around)
  /-- Behind a backslash in a string. -/
  | stringEscape (around : Around)
  /-- In a template literal, maybe behind a dollar sign. -/
  | template (around : Around) (dollar : Bool)
  /-- Behind a backslash in a template literal. -/
  | templateEscape (around : Around)
  /-- In a substitution, behind the first characters of a word. -/
  | hole (around : Around) (word : List Char)
deriving DecidableEq, Repr

/-- What is around the code behind a brace. -/
def Around.deeper : Around → Around
  | statement => statement
  | markup inTag braces => markup inTag (braces + 1)

/-- Behind the brace that closes some code. -/
def Around.close : Around → Spot
  | statement => .code .statement 0 []
  | markup inTag 0 => if inTag then .tag else .text
  | markup inTag (braces + 1) => .code (.markup inTag braces) 0 []

/-- The name that a word is, if any: one dot makes a word a member, and a colon makes it a key. -/
def wordNames (dots : Nat) (word : List Char) (next : Char) : List String :=
  if isIdentifier (String.ofList word) ∧ dots ≠ 1 ∧ next ≠ ':' then [String.ofList word] else []

namespace Spot

/-- Behind a character of code that belongs to no word. -/
def behind (a : Around) (dots : Nat) (c : Char) : Spot :=
  if c = '\x7b' then code a.deeper 0 []
  else if c = '\x7d' then a.close
  else if c = '\x27' then string a
  else if c = '\x60' then template a false
  else code a (if c = '.' then dots + 1 else 0) []

/-- What one more character does: the names that end before it, and where it leads. -/
def step : Spot → Char → List String × Spot
  | text, c =>
    ([], if c = '\x7b' then code (.markup false 0) 0 [] else if c = '<' then tag else text)
  | tag, c =>
    ([], if c = '\x7b' then code (.markup true 0) 0 [] else if c = '"' then quoted
      else if c = '>' then text else tag)
  | quoted, c => ([], if c = '"' then tag else quoted)
  | code a dots word, c =>
    if isIdentifierPart c then ([], code a dots (word ++ [c]))
    else (wordNames dots word c, behind a (if word = [] then dots else 0) c)
  | string a, c =>
    ([], if c = '\x27' then code a 0 [] else if c = '\\' then stringEscape a else string a)
  | stringEscape a, _ => ([], string a)
  | template a dollar, c =>
    ([], if c = '\x60' then code a 0 [] else if c = '\\' then templateEscape a
      else if c = '\x7b' ∧ dollar then hole a [] else template a (c = '$'))
  | templateEscape a, _ => ([], template a false)
  | hole a word, c =>
    if isIdentifierPart c then ([], hole a (word ++ [c]))
    else (wordNames 0 word c, if c = '\x7d' then template a false else hole a [])

/-- What some characters do one after the other. -/
def run : Spot → List Char → List String × Spot
  | s, [] => ([], s)
  | s, c :: cs => ((s.step c).1 ++ (run (s.step c).2 cs).1, (run (s.step c).2 cs).2)

/-- The name that ends with the line. -/
def last : Spot → List String
  | code _ dots word => wordNames dots word ';'
  | _ => []

/-- The names on a line, read from some spot. -/
def names (s : Spot) (line : String) : List String :=
  (s.run line.toList).1 ++ (s.run line.toList).2.last

/-- Outside of code. -/
def IsOutside (s : Spot) : Prop := s = text ∨ s = tag ∨ s = quoted

/-! ## Pieces -/

/-- The characters of a piece lead from one spot to another and complete some names. -/
def Leads (s : Spot) (cs : List Char) (ns : List String) (s' : Spot) : Prop := s.run cs = (ns, s')

namespace Leads

variable {s s' s'' : Spot} {c : Char} {cs ds : List Char} {ns ms : List String}

theorem nil (s : Spot) : s.Leads [] [] s := rfl

theorem cons (hstep : s.step c = (ns, s')) (hrest : s'.Leads cs ms s'') :
    s.Leads (c :: cs) (ns ++ ms) s'' := by
  rw [Leads] at hrest
  rw [Leads, run, hstep, hrest]

/-- Pieces are read one after the other. -/
theorem append (hleft : s.Leads cs ns s') (hright : s'.Leads ds ms s'') :
    s.Leads (cs ++ ds) (ns ++ ms) s'' := by
  induction cs generalizing s ns with
  | nil =>
    obtain ⟨rfl, rfl⟩ := Prod.mk.inj hleft
    exact hright
  | cons c cs ih =>
    obtain ⟨rfl, hlast⟩ := Prod.mk.inj hleft
    have hrest : (s.step c).2.Leads cs ((s.step c).2.run cs).1 s' := Prod.ext rfl hlast
    rw [List.cons_append, List.append_assoc]
    exact cons rfl (ih hrest)

/-- A character that completes no name. -/
theorem quiet (hstep : s.step c = ([], s')) (hrest : s'.Leads cs ns s'') :
    s.Leads (c :: cs) ns s'' := cons hstep hrest

end Leads

/-- The names behind a piece are read from where it leads. -/
theorem names_append {s s' : Spot} {head : String} {ns : List String}
    (h : s.Leads head.toList ns s') (rest : String) : s.names (head ++ rest) = ns ++ s'.names rest := by
  have hrest : s'.Leads rest.toList (s'.run rest.toList).1 (s'.run rest.toList).2 := rfl
  have hall := h.append hrest
  rw [Leads] at hall
  rw [names, names, String.toList_append, hall, List.append_assoc]

theorem names_of_leads {s s' : Spot} {line : String} {ns : List String}
    (h : s.Leads line.toList ns s') : s.names line = ns ++ s'.last := by
  rw [Leads] at h
  rw [names, h]

/-! ## Outside of code -/

/-- Without a brace there is no code. -/
theorem exists_leads_of_no_brace {cs : List Char} (h : '\x7b' ∉ cs) {s : Spot}
    (hs : s.IsOutside) : ∃ s' : Spot, s'.IsOutside ∧ s.Leads cs [] s' := by
  induction cs generalizing s with
  | nil => exact ⟨s, hs, .nil s⟩
  | cons c cs ih =>
    rw [List.mem_cons, not_or] at h
    have hstep : ∃ s' : Spot, s'.IsOutside ∧ s.step c = ([], s') := by
      rcases hs with rfl | rfl | rfl
      · rw [step, if_neg (Ne.symm h.1)]
        split <;> exact ⟨_, by simp [IsOutside], rfl⟩
      · rw [step, if_neg (Ne.symm h.1)]
        split
        · exact ⟨_, by simp [IsOutside], rfl⟩
        · split <;> exact ⟨_, by simp [IsOutside], rfl⟩
      · rw [step]
        split <;> exact ⟨_, by simp [IsOutside], rfl⟩
    obtain ⟨s', hs', hstep⟩ := hstep
    obtain ⟨s'', hs'', hrest⟩ := ih h.2 hs'
    exact ⟨s'', hs'', hrest.quiet hstep⟩

theorem names_of_no_brace {line : String} (h : '\x7b' ∉ line.toList) {s : Spot}
    (hs : s.IsOutside) : s.names line = [] := by
  obtain ⟨s', hs', hleads⟩ := exists_leads_of_no_brace h hs
  rw [names_of_leads hleads]
  rcases hs' with rfl | rfl | rfl <;> rfl

/-- Text between elements goes on to the next brace or angle bracket. -/
theorem leads_text {cs : List Char} (h : ∀ c ∈ cs, c ≠ '\x7b' ∧ c ≠ '<') :
    text.Leads cs [] text := by
  induction cs with
  | nil => exact .nil _
  | cons c cs ih =>
    rw [List.forall_mem_cons] at h
    exact (ih h.2).quiet (by rw [step, if_neg h.1.1, if_neg h.1.2])

/-- The name of an attribute is no code. -/
theorem leads_tag {cs : List Char} (h : ∀ c ∈ cs, c ≠ '\x7b' ∧ c ≠ '"' ∧ c ≠ '>') :
    tag.Leads cs [] tag := by
  induction cs with
  | nil => exact .nil _
  | cons c cs ih =>
    rw [List.forall_mem_cons] at h
    exact (ih h.2).quiet (by rw [step, if_neg h.1.1, if_neg h.1.2.1, if_neg h.1.2.2])

theorem leads_quoted {cs : List Char} (h : '"' ∉ cs) : quoted.Leads cs [] quoted := by
  induction cs with
  | nil => exact .nil _
  | cons c cs ih =>
    rw [List.mem_cons, not_or] at h
    exact (ih h.2).quiet (by rw [step, if_neg (Ne.symm h.1)])

/-! ## Strings -/

section
variable (a : Around)

theorem leads_escapeStringChar (c : Char) :
    (string a).Leads (escapeStringChar c) [] (string a) := by
  unfold escapeStringChar
  split
  · rfl
  · rfl
  · rfl
  · rfl
  · rfl
  · next hbackslash hquote _ _ _ =>
    exact (Leads.nil _).quiet (by rw [step, if_neg hquote, if_neg hbackslash])

theorem leads_escapeString (s : List Char) :
    (string a).Leads (s.flatMap escapeStringChar) [] (string a) := by
  induction s with
  | nil => exact .nil _
  | cons c rest ih => exact (leads_escapeStringChar a c).append ih

/-- A string holds no names. -/
theorem leads_quote (dots : Nat) (s : String) :
    (code a dots []).Leads (quote s).toList [] (code a 0 []) := by
  have hopen : (code a dots []).Leads ['\x27'] [] (string a) := rfl
  have hclose : (string a).Leads ['\x27'] [] (code a 0 []) := rfl
  rw [quote, String.toList_append, String.toList_append, toList_escapeString]
  exact (hopen.append (leads_escapeString a s.toList)).append hclose

/-! ## Words -/

theorem leads_wordPart (dots : Nat) (before : List Char) {word : List Char}
    (h : ∀ c ∈ word, isIdentifierPart c = true) :
    (code a dots before).Leads word [] (code a dots (before ++ word)) := by
  induction word generalizing before with
  | nil =>
    rw [List.append_nil]
    exact .nil _
  | cons c rest ih =>
    rw [List.forall_mem_cons] at h
    have hrest := ih (before ++ [c]) h.2
    rw [List.append_assoc, List.singleton_append] at hrest
    exact hrest.quiet (by rw [step, if_pos h.1])

/-- A name, before a character that belongs to none. -/
theorem leads_name {name : String} (hname : isIdentifier name = true) {dots : Nat} (hdots : dots ≠ 1)
    {c : Char} (hc : isIdentifierPart c = false) (hcolon : c ≠ ':') :
    (code a dots []).Leads (name.toList ++ [c]) [name] (behind a 0 c) := by
  have hword := leads_wordPart a dots [] (isIdentifierPart_of_isIdentifier hname)
  have hne : name.toList ≠ [] := by
    intro hnil
    rw [isIdentifier, hnil] at hname
    cases hname
  have hend : (code a dots name.toList).step c = ([name], behind a 0 c) := by
    rw [step, hc, if_neg Bool.false_ne_true, wordNames, String.ofList_toList,
      if_pos ⟨hname, hdots, hcolon⟩, if_neg hne]
  exact hword.append (Leads.cons hend (.nil _))

/-- A name whose member is taken. -/
theorem names_member {name : String} (hname : isIdentifier name = true) (rest : String) :
    (code a 0 []).names (name ++ ("." ++ rest)) = name :: (code a 1 []).names rest := by
  have hleads : (code a 0 []).Leads (name ++ ".").toList [name] (code a 1 []) := by
    rw [String.toList_append]
    exact leads_name a hname Nat.zero_ne_one (by decide) (by decide)
  rw [← String.append_assoc, names_append hleads]
  rfl

/-- The key of a member is no name. -/
theorem leads_propertyKey (name : String) :
    (code a 0 []).Leads (propertyKey name ++ ": ").toList [] (code a 0 []) := by
  rw [String.toList_append, propertyKey]
  split
  · next hname =>
    have hword := leads_wordPart a 0 [] (isIdentifierPart_of_isIdentifier hname)
    have hcolon : (code a 0 name.toList).Leads ": ".toList [] (code a 0 []) := by
      have hnone : wordNames 0 name.toList ':' = [] := if_neg fun h => h.2.2 rfl
      have hstep : (code a 0 name.toList).step ':' =
          ([], behind a (if name.toList = [] then 0 else 0) ':') := by
        rw [← hnone]
        rfl
      rw [ite_self] at hstep
      exact Leads.quiet hstep rfl
    exact hword.append hcolon
  · exact (leads_quote a 0 name).append rfl

/-- A character that belongs to no word, where no word has started. -/
theorem leads_separator {c : Char} (hc : isIdentifierPart c = false) :
    (code a 0 []).Leads [c] [] (behind a 0 c) := by
  refine Leads.quiet ?_ (.nil _)
  rw [step, hc, if_neg Bool.false_ne_true, if_pos rfl]
  exact congrArg (·, behind a 0 c) (if_neg fun h => absurd h.1 (by decide))

/-- A name ends where something else begins. -/
theorem names_name {name : String} (hname : isIdentifier name = true) {rest : String} {c : Char}
    {cs : List Char} (hrest : rest.toList = c :: cs) (hc : isIdentifierPart c = false)
    (hcolon : c ≠ ':') :
    (code a 0 []).names (name ++ rest) = name :: (code a 0 []).names rest := by
  have hsplit : rest = String.singleton c ++ String.ofList cs := by
    refine String.toList_injective ?_
    rw [hrest, String.toList_append, String.toList_singleton, String.toList_ofList]
    rfl
  have hname : (code a 0 []).Leads (name ++ String.singleton c).toList [name] (behind a 0 c) := by
    rw [String.toList_append, String.toList_singleton]
    exact leads_name a hname Nat.zero_ne_one hc hcolon
  have hrest : (code a 0 []).Leads (String.singleton c).toList [] (behind a 0 c) := by
    rw [String.toList_singleton]
    exact leads_separator a hc
  rw [hsplit, ← String.append_assoc, names_append hname, names_append hrest]
  rfl

end

/-! ## Literals -/

/-- The words that literals hold. -/
def literalWords : List String := ["true", "false", "null"]

/-- Code that holds no names but the words of literals, whatever stands around it. -/
def IsLiteral (text : String) : Prop :=
  ∀ (a : Around) (c : Char), isIdentifierPart c = false → c ≠ ':' →
    ∃ ns, (∀ n ∈ ns, n ∈ literalWords) ∧
      (code a 0 []).Leads (text.toList ++ [c]) ns (behind a 0 c)

/-- A brace that is opened in code is closed again. -/
theorem leads_close (a : Around) :
    (code a.deeper 0 []).Leads ['\x7d'] [] (code a 0 []) := by
  cases a <;> rfl

namespace IsLiteral

theorem word {w : String} (h : w ∈ literalWords) : IsLiteral w := by
  intro a c hc hcolon
  have hname : ∀ w ∈ literalWords, isIdentifier w = true := by decide
  exact ⟨[w], List.forall_mem_singleton.mpr h,
    leads_name a (hname w h) Nat.zero_ne_one hc hcolon⟩

theorem quote (s : String) : IsLiteral (quote s) := by
  intro a c hc _
  exact ⟨[], List.forall_mem_nil _, (leads_quote a 0 s).append (leads_separator a hc)⟩

variable {text rest : String}

theorem comma (h : IsLiteral text) (hrest : IsLiteral rest) :
    IsLiteral (text ++ (", " ++ rest)) := by
  intro a c hc hcolon
  obtain ⟨ns, hns, hleads⟩ := h a ',' (by decide) (by decide)
  obtain ⟨ms, hms, hleads'⟩ := hrest a c hc hcolon
  have hblank : (code a 0 []).Leads [' '] [] (code a 0 []) := rfl
  refine ⟨ns ++ ms, List.forall_mem_append.mpr ⟨hns, hms⟩, ?_⟩
  have hall := hleads.append (hblank.append hleads')
  rw [String.toList_append, String.toList_append]
  simp only [List.append_assoc] at hall ⊢
  exact hall

theorem list (h : IsLiteral text) : IsLiteral ("[" ++ text ++ "]") := by
  intro a c hc _
  obtain ⟨ns, hns, hleads⟩ := h a ']' (by decide) (by decide)
  have hopen : (code a 0 []).Leads ['['] [] (code a 0 []) := rfl
  refine ⟨ns, hns, ?_⟩
  have hall := hopen.append (hleads.append (leads_separator a hc))
  rw [List.nil_append, List.append_nil, List.append_assoc] at hall
  rw [String.toList_append, String.toList_append, List.append_assoc, List.append_assoc]
  exact hall

theorem record (h : IsLiteral text) : IsLiteral ("\x7b " ++ text ++ " \x7d") := by
  intro a c hc _
  obtain ⟨ns, hns, hleads⟩ := h a.deeper ' ' (by decide) (by decide)
  have hopen : (code a 0 []).Leads ['\x7b', ' '] []
      (code a.deeper 0 []) := rfl
  refine ⟨ns, hns, ?_⟩
  have hall := hopen.append
    (hleads.append ((leads_close a).append (leads_separator a hc)))
  rw [List.nil_append, List.append_nil, List.append_nil, List.append_assoc] at hall
  rw [String.toList_append, String.toList_append, List.append_assoc, List.append_assoc]
  exact hall

theorem member (h : IsLiteral text) (name : String) :
    IsLiteral (propertyKey name ++ ": " ++ text) := by
  intro a c hc hcolon
  obtain ⟨ns, hns, hleads⟩ := h a c hc hcolon
  refine ⟨ns, hns, ?_⟩
  rw [String.toList_append, List.append_assoc]
  exact (leads_propertyKey a name).append hleads

end IsLiteral

mutual

/-- A value that is written as a literal holds no names but the words of literals. -/
theorem isLiteral_literal (v : Json) (h : Numberless v) : IsLiteral (literal v) := by
  match v with
  | .null => exact .word (by decide)
  | .bool true => exact .word (by decide)
  | .bool false => exact .word (by decide)
  | .number n => exact absurd h id
  | .string s => exact .quote s
  | .array [] =>
    intro a c hc _
    have hopen : (code a 0 []).Leads "[]".toList [] (code a 0 []) := rfl
    exact ⟨[], List.forall_mem_nil _, hopen.append (leads_separator a hc)⟩
  | .array (first :: rest) =>
    exact (isLiteral_items (first :: rest) (List.cons_ne_nil _ _) h).list
  | .object [] =>
    intro a c hc _
    have hopen : (code a 0 []).Leads ['\x7b'] []
        (code a.deeper 0 []) := rfl
    exact ⟨[], List.forall_mem_nil _,
      (hopen.append (leads_close a)).append (leads_separator a hc)⟩
  | .object (first :: rest) =>
    exact (isLiteral_members (first :: rest) (List.cons_ne_nil _ _) h).record

theorem isLiteral_items (items : List Json) (hne : items ≠ []) (h : AllNumberless items) :
    IsLiteral (", ".intercalate (literalItems items)) := by
  match items with
  | [] => exact absurd rfl hne
  | [v] => exact isLiteral_literal v h.1
  | v :: second :: others =>
    rw [literalItems, literalItems, String.intercalate_cons_cons, String.append_assoc]
    exact (isLiteral_literal v h.1).comma
      (isLiteral_items (second :: others) (List.cons_ne_nil _ _) h.2)

theorem isLiteral_members (members : List (String × Json)) (hne : members ≠ [])
    (h : MembersNumberless members) :
    IsLiteral (", ".intercalate (literalMembers members)) := by
  match members with
  | [] => exact absurd rfl hne
  | [(key, v)] => exact (isLiteral_literal v h.1).member key
  | (key, v) :: second :: others =>
    obtain ⟨key', v'⟩ := second
    rw [literalMembers, literalMembers, String.intercalate_cons_cons, String.append_assoc]
    exact ((isLiteral_literal v h.1).member key).comma
      (isLiteral_members ((key', v') :: others) (List.cons_ne_nil _ _) h.2)

end

/-! ## Templates -/

/-- A character of a template without a meaning of its own. -/
theorem step_template {a : Around} {dollar : Bool} {c : Char} (hbacktick : c ≠ '\x60')
    (hbackslash : c ≠ '\\') (hopen : dollar = true → c ≠ '\x7b') :
    (template a dollar).step c = ([], template a (c = '$')) := by
  rw [step, if_neg hbacktick, if_neg hbackslash, if_neg fun h => hopen h.2 h.1]

/-- Escaped text holds no substitutions. -/
theorem exists_leads_escapeTemplateChars (a : Around) (text : List Char) (dollar : Bool)
    (h : dollar = true → text.head? ≠ some '\x7b') :
    ∃ dollar', (template a dollar).Leads (escapeTemplateChars text) []
      (template a dollar') := by
  fun_induction escapeTemplateChars text generalizing dollar with
  | case1 => exact ⟨dollar, .nil _⟩
  | case2 rest ih =>
    obtain ⟨dollar', hrest⟩ := ih false (by simp)
    exact ⟨dollar', .quiet rfl (.quiet rfl hrest)⟩
  | case3 rest ih =>
    obtain ⟨dollar', hrest⟩ := ih false (by simp)
    exact ⟨dollar', .quiet rfl (.quiet rfl hrest)⟩
  | case4 rest ih =>
    -- the dollar sign is escaped, so that the brace behind it opens nothing
    obtain ⟨dollar', hrest⟩ := ih false (by simp)
    exact ⟨dollar', .quiet rfl (.quiet rfl (.quiet rfl hrest))⟩
  | case5 c rest hbackslash hbacktick hopen ih =>
    obtain ⟨dollar', hrest⟩ := ih (c = '$') fun hdollar hhead => by
      obtain ⟨tail, rfl⟩ := List.head?_eq_some_iff.mp hhead
      exact hopen tail (of_decide_eq_true hdollar) rfl
    refine ⟨dollar', .quiet (step_template hbacktick hbackslash fun hdollar => ?_) hrest⟩
    rintro rfl
    exact h hdollar rfl

theorem leads_substitution (a : Around) (dollar : Bool) {name : String}
    (hname : isIdentifier name = true) :
    (template a dollar).Leads (FieldPath.substitution name).toList [name]
      (template a false) := by
  have hword : ∀ (before : List Char) {cs : List Char}, (∀ c ∈ cs, isIdentifierPart c = true) →
      (hole a before).Leads cs [] (hole a (before ++ cs)) := by
    intro before cs h
    induction cs generalizing before with
    | nil =>
      rw [List.append_nil]
      exact .nil _
    | cons c rest ih =>
      rw [List.forall_mem_cons] at h
      have hrest := ih (before ++ [c]) h.2
      rw [List.append_assoc, List.singleton_append] at hrest
      exact hrest.quiet (by rw [step, if_pos h.1])
  have hopen : (template a dollar).Leads ['$', '\x7b'] [] (hole a []) := by
    cases dollar <;> rfl
  have hend : (hole a name.toList).Leads ['\x7d'] [name] (template a false) := by
    have hstep : (hole a name.toList).step '\x7d' = ([name], template a false) := by
      rw [step, if_neg (by decide), wordNames, String.ofList_toList,
        if_pos ⟨hname, Nat.zero_ne_one, by decide⟩, if_pos rfl]
    exact Leads.cons hstep (.nil _)
  have hall := hopen.append
    ((hword [] (isIdentifierPart_of_isIdentifier hname)).append hend)
  have hchars : (FieldPath.substitution name).toList =
      ['$', '\x7b'] ++ (name.toList ++ ['\x7d']) := by
    rw [FieldPath.substitution, braced, String.toList_append, String.toList_append,
      String.toList_append]
    rfl
  rw [hchars]
  exact hall

/-- The variables that paths are made of. -/
def pathVariables : List String := ["path", "index"]

/-- The body of a template literal that holds no names but those of paths. -/
def IsPathBody (body : String) : Prop :=
  ∀ a, ∃ ns dollar, (∀ n ∈ ns, n ∈ pathVariables) ∧
    (template a false).Leads body.toList ns (template a dollar)

namespace IsPathBody

theorem escapeTemplate (s : String) : IsPathBody (escapeTemplate s) := by
  intro a
  obtain ⟨dollar, hleads⟩ := exists_leads_escapeTemplateChars a s.toList false (by simp)
  rw [Source.escapeTemplate, String.toList_ofList]
  exact ⟨[], dollar, List.forall_mem_nil _, hleads⟩

theorem substitution {name : String} (h : name ∈ pathVariables) :
    IsPathBody (FieldPath.substitution name) := by
  intro a
  have hname : ∀ n ∈ pathVariables, isIdentifier n = true := by decide
  exact ⟨[name], false, List.forall_mem_singleton.mpr h,
    leads_substitution a false (hname name h)⟩

theorem dot {body rest : String} (h : IsPathBody body) (hrest : IsPathBody rest) :
    IsPathBody (body ++ "." ++ rest) := by
  intro a
  obtain ⟨ns, dollar, hns, hleads⟩ := h a
  obtain ⟨ms, dollar', hms, hleads'⟩ := hrest a
  have hdot : (template a dollar).Leads ".".toList [] (template a false) := by
    cases dollar <;> rfl
  refine ⟨ns ++ ms, dollar', List.forall_mem_append.mpr ⟨hns, hms⟩, ?_⟩
  have hall := hleads.append (hdot.append hleads')
  rw [List.nil_append] at hall
  rw [String.toList_append, String.toList_append, List.append_assoc]
  exact hall

end IsPathBody

/-- A path whose code holds no names but those of paths. -/
def IsPath : FieldPath → Prop
  | .literal _ => True
  | .«variable» name => name ∈ pathVariables
  | .template body => IsPathBody body

theorem IsPath.body {p : FieldPath} (h : IsPath p) : IsPathBody p.body := by
  cases p with
  | literal path => exact .escapeTemplate path
  | «variable» name => exact .substitution h
  | template body => exact h

theorem IsPath.item {p : FieldPath} (h : IsPath p) : IsPath p.item :=
  h.body.dot (.substitution (by decide))

theorem IsPath.child {p : FieldPath} (h : IsPath p) (name : String) : IsPath (p.child name) :=
  h.body.dot (.escapeTemplate name)

/-- What stands for a path in code. -/
theorem IsPath.leads_inCall {p : FieldPath} (h : IsPath p) (a : Around) {c : Char}
    (hc : isIdentifierPart c = false) (hcolon : c ≠ ':') :
    ∃ ns, (∀ n ∈ ns, n ∈ pathVariables) ∧
      (code a 0 []).Leads (p.inCall.toList ++ [c]) ns (behind a 0 c) := by
  cases p with
  | literal path =>
    exact ⟨[], List.forall_mem_nil _,
      (leads_quote a 0 path).append (leads_separator a hc)⟩
  | «variable» name =>
    have hname : ∀ n ∈ pathVariables, isIdentifier n = true := by decide
    exact ⟨[name], List.forall_mem_singleton.mpr h,
      leads_name a (hname name h) Nat.zero_ne_one hc hcolon⟩
  | template body =>
    obtain ⟨ns, dollar, hns, hleads⟩ := h a
    have hopen : (code a 0 []).Leads ['\x60'] [] (template a false) := rfl
    have hclose : (template a dollar).Leads ['\x60'] [] (code a 0 []) := rfl
    have hall := hopen.append ((hleads.append hclose).append (leads_separator a hc))
    refine ⟨ns, hns, ?_⟩
    rw [List.nil_append, List.append_nil, List.append_nil] at hall
    rw [FieldPath.inCall, String.toList_append, String.toList_append]
    simp only [List.append_assoc] at hall ⊢
    exact hall

/-! ## Texts in markup -/

/-- Code between braces, among the attributes of an element. -/
theorem leads_braced {text : String} {ns : List String}
    (h : (code (.markup true 0) 0 []).Leads (text.toList ++ ['\x7d']) ns tag) :
    tag.Leads (braced text).toList ns tag := by
  have hopen : tag.Leads ['\x7b'] [] (code (.markup true 0) 0 []) := rfl
  rw [braced, String.toList_append, String.toList_append, List.append_assoc]
  exact hopen.append h

theorem leads_attributeText (s : String) : tag.Leads (attributeText s).toList [] tag := by
  rw [attributeText]
  split
  · exact leads_braced ((leads_quote _ 0 s).append (leads_separator _ (by decide)))
  · next hnone =>
    have hquote : '"' ∉ s.toList := by
      intro hmem
      exact hnone (List.any_eq_true.mpr ⟨'"', hmem, by decide⟩)
    have hopen : tag.Leads ['"'] [] quoted := rfl
    have hclose : quoted.Leads ['"'] [] tag := rfl
    rw [String.toList_append, String.toList_append]
    exact (hopen.append (leads_quoted hquote)).append hclose

/-- A text of the form between elements holds no names. -/
theorem leads_childText (s : String) : text.Leads (childText s).toList [] text := by
  rw [childText]
  split
  · have hopen : text.Leads ['\x7b'] [] (code (.markup false 0) 0 []) := rfl
    have hclose : (code (.markup false 0) 0 []).Leads ['\x7d'] [] text := rfl
    rw [braced, String.toList_append, String.toList_append]
    exact (hopen.append (leads_quote _ 0 s)).append hclose
  · next hnone =>
    refine leads_text fun c hc => ?_
    have hc' := List.any_eq_false.mp (Bool.eq_false_iff.mpr hnone) c hc
    simp only [Bool.or_eq_true, beq_iff_eq, not_or] at hc'
    exact ⟨hc'.1.1.1, hc'.1.2⟩

/-- What stands for a path as the value of an attribute. -/
theorem IsPath.leads_inAttribute {p : FieldPath} (h : IsPath p) :
    ∃ ns, (∀ n ∈ ns, n ∈ pathVariables) ∧ tag.Leads p.inAttribute.toList ns tag := by
  cases p with
  | literal path => exact ⟨[], List.forall_mem_nil _, leads_attributeText path⟩
  | «variable» name =>
    obtain ⟨ns, hns, hleads⟩ := h.leads_inCall (.markup true 0) (c := '\x7d') (by decide) (by decide)
    exact ⟨ns, hns, leads_braced hleads⟩
  | template body =>
    obtain ⟨ns, hns, hleads⟩ := h.leads_inCall (.markup true 0) (c := '\x7d') (by decide) (by decide)
    exact ⟨ns, hns, leads_braced hleads⟩

end Spot

end WebForm.Component
