import WebForm.Proofs.Number.Layout
import WebForm.Proofs.Zod.Meaning
import WebForm.Zod.Schema
/-!
# What written schemas mean

`Zod.parser` is what the library makes of an expression of the tree that schemas are generated
from, and `denotes_text` says that the text of the expression is read as just that. The rest of the
module goes up from there: to the lines of a member, and to the file that exports the schema.

The one thing that is asked of the tree is that the regular expressions in it can be written
between slashes at all.
-/

set_option autoImplicit false

namespace WebForm.Zod

open Script Source Schema

/-! ## Parsers of the tree -/

/-- What a check asks of a value. -/
def StringCheck.test (lits : Literals) : StringCheck → Option Json → Bool
  | .min n _ => atLeast lits (toString n.toNat)
  | .max n _ => atMost lits (toString n.toNat)
  | .email _ => onText isEmail
  | .regex pattern _ => onText (lits.regex (escapeRegex pattern))

/-- What a check asks of a value. -/
def NumberCheck.test (lits : Literals) : NumberCheck → Option Json → Bool
  | .min bound _ => atLeast lits bound.plainText
  | .max bound _ => atMost lits bound.plainText

/-- A parser with checks chained to it. -/
def Parser.checks (p : Parser) (tests : List (Option Json → Bool)) : Parser :=
  tests.foldl Parser.check p

/-- A number, or a text that is not blank. -/
def Parser.guarded (lits : Literals) : Parser :=
  .union [.number, Parser.string.trim.check (atLeast lits "1")]

/-- What the library makes of an expression. -/
def parser (lits : Literals) : Zod → Parser
  | .string checks => Parser.string.checks (checks.map (StringCheck.test lits))
  | .number _ checks =>
    (Parser.guarded lits).pipe (Parser.coercion.checks (checks.map (NumberCheck.test lits)))
  | .boolean => .boolean
  | .mustBeTrue _ =>
    Parser.boolean.check fun
      | some (.bool b) => b
      | _ => false
  | .never => .never
  | .enum options => .enum options
  | .array item => .array (item.parser lits)
  | .nonEmpty list _ => (list.parser lits).check (atLeast lits "1")
  | .optional inner => (inner.parser lits).optional
  | .orEmpty inner => .union [inner.parser lits, .enum [""]]

/-- The pattern is written as a regular expression literal. -/
def IsRegexText (pattern : String) : Prop :=
  Reads ("/" ++ escapeRegex pattern ++ "/") [.regex (escapeRegex pattern)]

/-- The pattern of the check, if it has one, is written as a literal. -/
def StringCheck.IsReadable : StringCheck → Prop
  | .regex pattern _ => IsRegexText pattern
  | .min _ _ | .max _ _ | .email _ => True

/-- All patterns in the expression are written as literals. -/
def IsReadable : Zod → Prop
  | .string checks => ∀ c ∈ checks, c.IsReadable
  | .array inner | .nonEmpty inner _ | .optional inner | .orEmpty inner => inner.IsReadable
  | .number _ _ | .boolean | .mustBeTrue _ | .never | .enum _ => True

/-! ## Texts of parsers -/

/-- A text that is read as a parser. -/
def Denotes (lits : Literals) (text : String) (p : Parser) : Prop :=
  ∃ e, Writes text e ∧ eval lits e = some (.parser p)

/-- A text that is read as arguments of a call. -/
def DenotesItems (lits : Literals) (text : String) (vs : List Value) : Prop :=
  ∃ es, WritesItems text es ∧ evalAll lits es = some vs

section
variable {lits : Literals} {text head arguments name : String} {p q : Parser} {v : Value}
  {vs : List Value}

theorem evalAll_cons {e : Expr} {es : List Expr} (h : eval lits e = some v)
    (hrest : evalAll lits es = some vs) : evalAll lits (e :: es) = some (v :: vs) := by
  rw [evalAll, h, Option.bind_some, hrest]
  rfl

theorem evalAll_singleton {e : Expr} (h : eval lits e = some v) :
    evalAll lits [e] = some [v] := evalAll_cons h rfl

theorem Denotes.items (h : Denotes lits text p) : DenotesItems lits text [.parser p] := by
  obtain ⟨e, hwrites, heval⟩ := h
  exact ⟨[e], hwrites.whole.items, evalAll_singleton heval⟩

theorem Denotes.cons {rest : String} (h : Denotes lits text p)
    (hrest : DenotesItems lits rest vs) :
    DenotesItems lits (text ++ ", " ++ rest) (.parser p :: vs) := by
  obtain ⟨e, hwrites, heval⟩ := h
  obtain ⟨es, hitems, hall⟩ := hrest
  exact ⟨e :: es, .cons hwrites.whole hitems, evalAll_cons heval hall⟩

theorem denotesItems_quote (s : String) : DenotesItems lits (quote s) [.string s] :=
  ⟨_, (writes_quote s).whole.items, rfl⟩

theorem denotesItems_number {literal message : String} (h : isNumberText literal = true) :
    DenotesItems lits (literal ++ ", " ++ quote message) [.number literal, .string message] :=
  ⟨_, .number_cons h (writes_quote message).whole.items, rfl⟩

theorem denotesItems_regex {pattern message : String} (h : IsRegexText pattern) :
    DenotesItems lits ("/" ++ escapeRegex pattern ++ "/" ++ ", " ++ quote message)
      [.regex (escapeRegex pattern), .string message] :=
  ⟨_, .cons ⟨_, h, (spells_regex _).whole⟩ (writes_quote message).whole.items, rfl⟩

/-- Runs a call of a function of the library. -/
theorem eval_library {es : List Expr} (hargs : evalAll lits es = some vs)
    (hcall : Value.callLibrary name vs = some p) :
    eval lits (.call (.member (.name "z") name) es) = some (.parser p) := by
  rw [eval, eval, if_pos rfl, Option.bind_some, hargs, Option.bind_some, Value.call, hcall]
  rfl

/-- Runs a call of a method of a parser. -/
theorem eval_method {e : Expr} {es : List Expr} (h : eval lits e = some (.parser p))
    (hargs : evalAll lits es = some vs) (hcall : Value.callParser lits p name vs = some q) :
    eval lits (.call (.member e name) es) = some (.parser q) := by
  rw [eval, h, Option.bind_some, hargs, Option.bind_some, Value.call, hcall]
  rfl

theorem denotes_library_nil
    (h : Reads text [.word "z", .mark ".", .word name, .mark "(", .mark ")"])
    (hcall : Value.callLibrary name [] = some p) : Denotes lits text p :=
  ⟨_, ⟨_, h, (spells_name "z").method_nil name⟩, eval_library rfl hcall⟩

theorem denotes_library (hhead : Reads head [.word "z", .mark ".", .word name, .mark "("])
    (hargs : DenotesItems lits arguments vs) (hcall : Value.callLibrary name vs = some p) :
    Denotes lits (head ++ arguments ++ ")") p := by
  obtain ⟨es, ⟨us, hreads, hspells⟩, hall⟩ := hargs
  have hclose : Reads ")" [.mark ")"] := rfl
  have htext := Reads.append (Reads.append hhead hreads) hclose
  exact ⟨_, ⟨_, htext, (spells_name "z").method name hspells⟩, eval_library hall hcall⟩

theorem Denotes.method_nil (h : Denotes lits text p)
    (hhead : Reads head [.mark ".", .word name, .mark "(", .mark ")"])
    (hcall : Value.callParser lits p name [] = some q) : Denotes lits (text ++ head) q := by
  obtain ⟨e, hwrites, heval⟩ := h
  exact ⟨_, hwrites.method_nil hhead, eval_method heval rfl hcall⟩

theorem Denotes.method (h : Denotes lits text p)
    (hhead : Reads head [.mark ".", .word name, .mark "("])
    (hargs : DenotesItems lits arguments vs) (hcall : Value.callParser lits p name vs = some q) :
    Denotes lits (text ++ (head ++ arguments ++ ")")) q := by
  obtain ⟨e, hwrites, heval⟩ := h
  obtain ⟨es, hitems, hall⟩ := hargs
  exact ⟨_, hwrites.method hhead hitems, eval_method heval hall hcall⟩

end

/-! ## Checks -/

section
variable {lits : Literals} {text : String} {p : Parser}

theorem call_eq (name argument message : String) :
    call name argument message =
      "." ++ name ++ "(" ++ (argument ++ ", " ++ quote message) ++ ")" := by
  rw [call]
  simp only [String.append_assoc]

theorem denotes_stringCheck (h : Denotes lits text p) {c : StringCheck} (hc : c.IsReadable) :
    Denotes lits (text ++ c.text) (p.check (c.test lits)) := by
  cases c with
  | min n message =>
    rw [StringCheck.text, call_eq]
    exact h.method rfl (denotesItems_number (isNumberText_toString_nat _)) rfl
  | max n message =>
    rw [StringCheck.text, call_eq]
    exact h.method rfl (denotesItems_number (isNumberText_toString_nat _)) rfl
  | email message =>
    rw [StringCheck.text, callMessage]
    exact h.method rfl (denotesItems_quote message) rfl
  | regex pattern message =>
    rw [StringCheck.text, call_eq]
    exact h.method rfl (denotesItems_regex hc) rfl

theorem denotes_numberCheck (h : Denotes lits text p) (c : NumberCheck) :
    Denotes lits (text ++ c.text) (p.check (c.test lits)) := by
  cases c with
  | min bound message =>
    rw [NumberCheck.text, call_eq]
    exact h.method rfl (denotesItems_number bound.isNumberText_plainText) rfl
  | max bound message =>
    rw [NumberCheck.text, call_eq]
    exact h.method rfl (denotesItems_number bound.isNumberText_plainText) rfl

/-- Checks are chained one after the other. -/
theorem denotes_checks {α : Type} {write : α → String} {test : α → Option Json → Bool}
    {cs : List α}
    (hcheck : ∀ c ∈ cs, ∀ {text p}, Denotes lits text p →
      Denotes lits (text ++ write c) (p.check (test c)))
    (h : Denotes lits text p) :
    Denotes lits (text ++ String.join (cs.map write)) (p.checks (cs.map test)) := by
  induction cs generalizing text p with
  | nil =>
    rw [List.map_nil, String.join_nil, String.append_empty]
    exact h
  | cons c rest ih =>
    rw [List.map_cons, String.join_cons, ← String.append_assoc]
    exact ih (fun d hd => hcheck d (List.mem_cons_of_mem c hd)) (hcheck c List.mem_cons_self h)

theorem denotes_atLeastOne (h : Denotes lits text p) (message : String) :
    Denotes lits (text ++ atLeastOne message) (p.check (atLeast lits "1")) := by
  rw [atLeastOne, call_eq]
  exact h.method rfl (denotesItems_number rfl) rfl

/-! ## Expressions -/

/-- What is left to be coerced is coerced with a message in a record. -/
theorem denotes_coercion : Denotes lits coercion .coercion := by
  have hkey : Reads "\x7b invalid_type_error: "
      [.mark "\x7b", keyToken "invalid_type_error", .mark ":"] := rfl
  have hrecord := writes_record_singleton hkey (writes_quote Message.invalidNumber).whole
  obtain ⟨us, hreads, hspells⟩ := hrecord.whole.items
  have hhead : Reads "z.coerce.number("
      [.word "z", .mark ".", .word "coerce", .mark ".", .word "number", .mark "("] := rfl
  have hclose : Reads ")" [.mark ")"] := rfl
  have htext := Reads.append (Reads.append hhead hreads) hclose
  have hopen : "z.coerce.number(\x7b invalid_type_error: " =
      "z.coerce.number(" ++ "\x7b invalid_type_error: " := rfl
  have hend : " \x7d)" = " \x7d" ++ ")" := rfl
  have heval : eval lits (.call (.member (.member (.name "z") "coerce") "number")
      [.record [("invalid_type_error", .string Message.invalidNumber)]]) =
        some (.parser .coercion) := rfl
  show Denotes lits
    ("z.coerce.number(\x7b invalid_type_error: " ++ quote Message.invalidNumber ++ " \x7d)") _
  rw [hopen, hend]
  simp only [String.append_assoc] at htext ⊢
  exact ⟨_, ⟨_, htext, ((spells_name "z").member "coerce").method "number" hspells⟩, heval⟩

theorem DenotesItems.list {vs : List Value} (h : DenotesItems lits text vs) :
    DenotesItems lits ("[" ++ text ++ "]") [.list vs] := by
  obtain ⟨es, hwrites, hall⟩ := h
  refine ⟨_, (writes_list hwrites).whole.items, evalAll_singleton ?_⟩
  rw [eval, hall]
  rfl

theorem denotes_string : Denotes lits "z.string()" .string := by
  have htext : Reads "z.string()"
      [.word "z", .mark ".", .word "string", .mark "(", .mark ")"] := rfl
  exact denotes_library_nil htext rfl

theorem denotes_number : Denotes lits "z.number()" .number := by
  have htext : Reads "z.number()"
      [.word "z", .mark ".", .word "number", .mark "(", .mark ")"] := rfl
  exact denotes_library_nil htext rfl

theorem denotes_boolean : Denotes lits "z.boolean()" .boolean := by
  have htext : Reads "z.boolean()"
      [.word "z", .mark ".", .word "boolean", .mark "(", .mark ")"] := rfl
  exact denotes_library_nil htext rfl

theorem denotes_never : Denotes lits "z.never()" .never := by
  have htext : Reads "z.never()"
      [.word "z", .mark ".", .word "never", .mark "(", .mark ")"] := rfl
  exact denotes_library_nil htext rfl

theorem denotes_guarded (message : String) :
    Denotes lits ("z.union([z.number(), z.string().trim()" ++ atLeastOne message ++ "])")
      (.guarded lits) := by
  have htrim : Denotes lits ("z.string()" ++ ".trim()") Parser.string.trim :=
    denotes_string.method_nil (show Reads ".trim()"
      [.mark ".", .word "trim", .mark "(", .mark ")"] from rfl) rfl
  have hchoices := (denotes_number.cons (denotes_atLeastOne htrim message).items).list
  have hhead : Reads "z.union(" [.word "z", .mark ".", .word "union", .mark "("] := rfl
  have hunion := denotes_library hhead hchoices rfl
  -- the literal parts are cut where the pieces meet
  have hopen : "z.union([z.number(), z.string().trim()" =
      "z.union(" ++ ("[" ++ ("z.number()" ++ (", " ++ ("z.string()" ++ ".trim()")))) := rfl
  have hclose : "])" = "]" ++ ")" := rfl
  rw [hopen, hclose]
  simp only [String.append_assoc] at hunion ⊢
  exact hunion

theorem denotes_mustBeTrue (message : String) :
    Denotes lits (Zod.text (.mustBeTrue message)) (Zod.parser lits (.mustBeTrue message)) := by
  have htest := spellsWhole_function "val"
    (spellsWhole_equal (spells_name "val") (spells_name "true").whole)
  have hmember : SpellsMembers [keyToken "message", .mark ":", .string message]
      [("message", .string message)] := .last (spells_string message).whole
  -- the word before the comma ends there, so the two arguments are cut together
  have hopen : Reads "(val) => val === true, \x7b message: "
      [.mark "(", .word "val", .mark ")", .mark "=>", .word "val", .mark "===", .word "true",
        .mark ",", .mark "\x7b", keyToken "message", .mark ":"] := rfl
  have hclose : Reads " \x7d" [.mark "\x7d"] := rfl
  have htext := Reads.append (Reads.append hopen (reads_quote message)) hclose
  have hitems : DenotesItems lits
      ("(val) => val === true, \x7b message: " ++ quote message ++ " \x7d")
      [.isTrue, .record [("message", .string message)]] :=
    ⟨_, ⟨_, htext, .cons htest (.last (spells_record hmember).whole)⟩, rfl⟩
  have hhead : Reads ".refine(" [.mark ".", .word "refine", .mark "("] := rfl
  have hrefine := denotes_boolean.method hhead hitems rfl
  have hsplit : "z.boolean().refine((val) => val === true, \x7b message: " =
      "z.boolean()" ++ (".refine(" ++ "(val) => val === true, \x7b message: ") := rfl
  have hend : " \x7d)" = " \x7d" ++ ")" := rfl
  show Denotes lits ("z.boolean().refine((val) => val === true, \x7b message: " ++
    quote message ++ " \x7d)") _
  rw [hsplit, hend]
  simp only [String.append_assoc] at hrefine ⊢
  exact hrefine

theorem evalAll_strings (options : List String) :
    evalAll lits (options.map Expr.string) = some (options.map Value.string) := by
  induction options with
  | nil => rfl
  | cons s rest ih => exact evalAll_cons rfl ih

/-- What is put in is taken out again. -/
theorem mapM_map_of_forall {α β : Type} {f : α → β} {g : β → Option α} (h : ∀ a, g (f a) = some a)
    (as : List α) : (as.map f).mapM g = some as := by
  induction as with
  | nil => rfl
  | cons a rest ih =>
    rw [List.map_cons, List.mapM_cons, h, ih]
    rfl

theorem denotesItems_strings (options : List String) :
    DenotesItems lits ("[" ++ ", ".intercalate (options.map quote) ++ "]")
      [.list (options.map Value.string)] := by
  cases options with
  | nil => exact ⟨[.list []], ⟨_, rfl, .last spells_list_nil.whole⟩, rfl⟩
  | cons first rest =>
    have hwrites := writesItems_intercalate (fun s => (writes_quote s).whole) first rest
    exact DenotesItems.list ⟨_, hwrites, evalAll_strings (first :: rest)⟩

theorem denotes_enum (options : List String) :
    Denotes lits (Zod.text (.enum options)) (.enum options) := by
  have hhead : Reads "z.enum(" [.word "z", .mark ".", .word "enum", .mark "("] := rfl
  have hcall : Value.callLibrary "enum" [.list (options.map Value.string)] =
      some (.enum options) := by
    have hoptions : (options.map Value.string).mapM Value.string? = some options :=
      mapM_map_of_forall (by intro _; rfl) options
    rw [Value.callLibrary, hoptions]
    rfl
  have henum := denotes_library hhead (@denotesItems_strings lits options) hcall
  have hopen : "z.enum([" = "z.enum(" ++ "[" := rfl
  have hclose : "])" = "]" ++ ")" := rfl
  show Denotes lits ("z.enum([" ++ ", ".intercalate (options.map quote) ++ "])") _
  rw [hopen, hclose]
  simp only [String.append_assoc] at henum ⊢
  exact henum

theorem denotes_literal_empty : Denotes lits "z.literal('')" (.enum [""]) := by
  have htext : Reads "z.literal('')"
      ([Token.word "z"] ++ .mark "." :: .word "literal" :: .mark "(" ::
        ([Token.string ""] ++ [Token.mark ")"])) := rfl
  exact ⟨_, ⟨_, htext, (spells_name "z").method "literal" (.last (spells_string "").whole)⟩, rfl⟩

theorem denotes_guardedNumber (message : String) (checks : List NumberCheck) :
    Denotes lits (Zod.text (.number message checks))
      (Zod.parser lits (.number message checks)) := by
  -- the checks belong to the coercion inside the pipe, not to the guard
  have hcoerced : Denotes lits (coercion ++ String.join (checks.map NumberCheck.text))
      (Parser.coercion.checks (checks.map (NumberCheck.test lits))) :=
    denotes_checks (fun c _ _ _ hd => denotes_numberCheck hd c) denotes_coercion
  have hhead : Reads ".pipe(" [.mark ".", .word "pipe", .mark "("] := rfl
  have hcall : Value.callParser lits (.guarded lits) "pipe"
      [.parser (Parser.coercion.checks (checks.map (NumberCheck.test lits)))] =
        some (Zod.parser lits (.number message checks)) := rfl
  have hpipe := (denotes_guarded message).method hhead hcoerced.items hcall
  have hsplit : "]).pipe(" = "])" ++ ".pipe(" := rfl
  show Denotes lits ("z.union([z.number(), z.string().trim()" ++ atLeastOne message ++
    "]).pipe(" ++ coercion ++ String.join (checks.map NumberCheck.text) ++ ")") _
  rw [hsplit]
  simp only [String.append_assoc] at hpipe ⊢
  exact hpipe

theorem denotes_text {e : Zod} (h : e.IsReadable) : Denotes lits e.text (e.parser lits) := by
  induction e with
  | string checks =>
    exact denotes_checks (fun c hc _ _ hd => denotes_stringCheck hd (h c hc)) denotes_string
  | number message checks => exact denotes_guardedNumber message checks
  | boolean => exact denotes_boolean
  | mustBeTrue message => exact denotes_mustBeTrue message
  | never => exact denotes_never
  | enum options => exact denotes_enum options
  | array item ih =>
    have hhead : Reads "z.array(" [.word "z", .mark ".", .word "array", .mark "("] := rfl
    show Denotes lits ("z.array(" ++ item.text ++ ")") (.array (item.parser lits))
    exact denotes_library hhead (ih h).items rfl
  | nonEmpty list message ih => exact denotes_atLeastOne (ih h) message
  | optional inner ih =>
    have hhead : Reads optionalCall [.mark ".", .word "optional", .mark "(", .mark ")"] := rfl
    exact (ih h).method_nil hhead rfl
  | orEmpty inner ih =>
    have hhead : Reads ".or(" [.mark ".", .word "or", .mark "("] := rfl
    have hsplit : ".or(z.literal(''))" = ".or(" ++ "z.literal('')" ++ ")" := rfl
    show Denotes lits (inner.text ++ ".or(z.literal(''))") _
    rw [hsplit]
    exact (ih h).method hhead denotes_literal_empty.items rfl

end

end WebForm.Zod
