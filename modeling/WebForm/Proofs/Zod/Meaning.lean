import WebForm.Proofs.Script.Expr
import WebForm.Schema.Validator
/-!
# What zod expressions mean

The part of the zod library that generated schemas use. A `Parser` is what the library makes of an
expression: which values it accepts, and what it passes on of a value that it accepts; `none` is
the value of an absent member. `eval` runs an expression, where `z` is the library.

Two things depend on the engine that runs the code and are left to it: which number a literal
stands for, and what a regular expression matches. Messages do not matter for what is accepted.
-/

set_option autoImplicit false

namespace WebForm.Zod

open Script Schema

/-! ## Parsers -/

/-- What a schema does with a value: whether it accepts it, and what it passes on. -/
structure Parser where
  accepts : Option Json → Bool
  output : Option Json → Option Json

/-- How the engine reads literals. -/
structure Literals where
  /-- The number that a literal stands for. -/
  number : String → Option Double
  /-- Whether the regular expression between two slashes matches somewhere in a text. -/
  regex : String → String → Bool

/-- The natural number that a literal made of digits stands for. -/
def count? (literal : String) : Option Nat :=
  if literal ≠ "" ∧ literal.toList.all Char.isDigit then
    some (Nat.ofDigitChars 10 literal.toList 0)
  else none

/-- A lower bound: on the length of a text or of a list, and on the value of a number. -/
def atLeast (lits : Literals) (bound : String) : Option Json → Bool
  | some (.string s) => (count? bound).any fun n => decide (n ≤ s.length)
  | some (.array items) => (count? bound).any fun n => decide (n ≤ items.length)
  | some (.number n) => (lits.number bound).any fun b => !n.toDouble.less b
  | _ => false

/-- An upper bound: on the length of a text or of a list, and on the value of a number. -/
def atMost (lits : Literals) (bound : String) : Option Json → Bool
  | some (.string s) => (count? bound).any fun n => decide (s.length ≤ n)
  | some (.array items) => (count? bound).any fun n => decide (items.length ≤ n)
  | some (.number n) => (lits.number bound).any fun b => !b.less n.toDouble
  | _ => false

/-- A condition on texts. -/
def onText (ok : String → Bool) : Option Json → Bool
  | some (.string s) => ok s
  | _ => false

/-- The text without the white space at either end; other values as they are. -/
def trimmed : Option Json → Option Json
  | some (.string s) => some (.string (Text.trim s))
  | x => x

/-- The number that a value is coerced to. A blank text counts as zero. Other values than numbers
and texts are not looked at: none of them gets past the guard before the coercion. -/
def coerced : Option Json → Option Json
  | some (.number n) => some (.number n)
  | some (.string s) =>
    if Text.isBlank s then some (.number (.double (.zero false)))
    else (coerceNumber (.string s)).map fun x => .number (.double x)
  | _ => none

/-- The members of a record; of several with one key the last one counts. -/
def lastOfEach {α : Type} : List (String × α) → List (String × α)
  | [] => []
  | (key, a) :: rest =>
    if rest.any (·.1 == key) then lastOfEach rest else (key, a) :: lastOfEach rest

namespace Parser

/-- Accepts values that pass a test, and passes them on. -/
def ofTest (test : Option Json → Bool) : Parser := ⟨test, id⟩

def string : Parser := ofTest fun
  | some (.string _) => true
  | _ => false

def number : Parser := ofTest fun
  | some (.number _) => true
  | _ => false

def boolean : Parser := ofTest fun
  | some (.bool _) => true
  | _ => false

def never : Parser := ofTest fun _ => false

/-- Some texts. -/
def enum (options : List String) : Parser := ofTest (onText options.contains)

/-- A list. What it passes on of its items is not looked at by anything behind it. -/
def array (item : Parser) : Parser := ofTest fun
  | some (.array items) => items.all fun v => item.accepts (some v)
  | _ => false

/-- An object; members without a parser do not matter. -/
def object (members : List (String × Parser)) : Parser := ofTest fun
  | some (.object values) =>
    (lastOfEach members).all fun m => m.2.accepts (Json.lookup m.1 values)
  | _ => false

/-- A number, or what is coerced to one. -/
def coercion : Parser := ⟨fun x => (coerced x).isSome, coerced⟩

/-- The first of some parsers that accepts the value. -/
def union (choices : List Parser) : Parser where
  accepts x := choices.any (·.accepts x)
  output x := (choices.find? (·.accepts x)).elim x (·.output x)

/-- Asks for a condition on what is passed on. -/
def check (p : Parser) (ok : Option Json → Bool) : Parser :=
  ⟨fun x => p.accepts x && ok (p.output x), p.output⟩

/-- Accepts the absent value too. -/
def optional (p : Parser) : Parser :=
  ⟨fun x => x.isNone || p.accepts x, fun x => if x.isNone then none else p.output x⟩

/-- Gives what is passed on to another parser. -/
def pipe (p q : Parser) : Parser :=
  ⟨fun x => p.accepts x && q.accepts (p.output x), fun x => q.output (p.output x)⟩

/-- Trims texts that are passed on. -/
def trim (p : Parser) : Parser := ⟨p.accepts, fun x => trimmed (p.output x)⟩

end Parser

/-! ## Running expressions -/

/-- A value of the language. -/
inductive Value where
  /-- The library. -/
  | library
  /-- The part of the library that coerces. -/
  | coercions
  | parser (p : Parser)
  | string (s : String)
  | number (literal : String)
  | regex (body : String)
  /-- The function that tells whether a value is true. -/
  | isTrue
  | list (items : List Value)
  | record (members : List (String × Value))

namespace Value

/-- The text that a value is. -/
def string? : Value → Option String
  | .string s => some s
  | _ => none

/-- The parser that a value is. -/
def parser? : Value → Option Parser
  | .parser p => some p
  | _ => none

/-- What the library has under a name. -/
def property : Value → String → Option Value
  | .library, "coerce" => some .coercions
  | _, _ => none

/-- What a function of the library gives. -/
def callLibrary (name : String) (arguments : List Value) : Option Parser :=
  match name, arguments with
  | "string", [] => some .string
  | "number", [] => some .number
  | "boolean", [] => some .boolean
  | "never", [] => some .never
  | "enum", [.list items] => (items.mapM string?).map .enum
  | "literal", [.string s] => some (.enum [s])
  | "array", [.parser p] => some (.array p)
  | "union", [.list items] => (items.mapM parser?).map .union
  | "object", [.record members] =>
    (members.mapM fun (m : String × Value) => m.2.parser?.map fun p => (m.1, p)).map .object
  | _, _ => none

/-- What a method of a parser gives. -/
def callParser (lits : Literals) (p : Parser) (name : String) (arguments : List Value) :
    Option Parser :=
  match name, arguments with
  | "min", [.number bound, .string _] => some (p.check (atLeast lits bound))
  | "max", [.number bound, .string _] => some (p.check (atMost lits bound))
  | "email", [.string _] => some (p.check (onText isEmail))
  | "regex", [.regex body, .string _] => some (p.check (onText (lits.regex body)))
  | "refine", [.isTrue, .record _] =>
    some (p.check fun
      | some (.bool b) => b
      | _ => false)
  | "trim", [] => some p.trim
  | "optional", [] => some p.optional
  | "or", [.parser q] => some (.union [p, q])
  | "pipe", [.parser q] => some (p.pipe q)
  | _, _ => none

/-- What a method of a value gives. -/
def call (lits : Literals) : Value → String → List Value → Option Value
  | .library, name, arguments => (callLibrary name arguments).map .parser
  | .coercions, "number", [.record _] => some (.parser .coercion)
  | .parser p, name, arguments => (callParser lits p name arguments).map .parser
  | _, _, _ => none

end Value

/-- Whether an expression compares a parameter with true. -/
def isTruthTest (parameter : String) : Expr → Bool
  | .equal (.name a) (.name b) => a == parameter && b == "true"
  | _ => false

mutual

/-- Runs an expression. -/
def eval (lits : Literals) : Expr → Option Value
  | .name s => if s = "z" then some .library else none
  | .string s => some (.string s)
  | .number literal => some (.number literal)
  | .regex body => some (.regex body)
  | .list items => (evalAll lits items).map .list
  | .record members => (evalMembers lits members).map .record
  | .member object name => (eval lits object).bind fun v => v.property name
  | .call (.member object name) arguments =>
    (eval lits object).bind fun v => (evalAll lits arguments).bind fun vs => v.call lits name vs
  | .call _ _ => none
  | .function parameter body => if isTruthTest parameter body then some .isTrue else none
  | .equal _ _ => none
termination_by structural e => e

/-- Runs expressions one after the other. -/
def evalAll (lits : Literals) : List Expr → Option (List Value)
  | [] => some []
  | e :: rest => (eval lits e).bind fun v => (evalAll lits rest).map fun vs => v :: vs
termination_by structural es => es

/-- Runs the expressions of members. -/
def evalMembers (lits : Literals) : List (String × Expr) → Option (List (String × Value))
  | [] => some []
  | (key, e) :: rest =>
    (eval lits e).bind fun v => (evalMembers lits rest).map fun vs => (key, v) :: vs
termination_by structural members => members

end

end WebForm.Zod
