import WebForm.Number.Layout
import WebForm.Schema.Message
import WebForm.Source.Literal
/-!
# Zod expressions

The schema expressions that generated code uses, and how each is written. Numbers are guarded: a
number is accepted as such, and a text only if it is not blank, before it is turned into a number,
because a blank text would count as zero.
-/

set_option autoImplicit false

namespace WebForm

/-- A check that is chained to a string expression. -/
inductive Zod.StringCheck where
  | min (n : UInt64) (message : String)
  | max (n : UInt64) (message : String)
  | email (message : String)
  | regex (pattern message : String)
deriving DecidableEq, Repr

/-- A check that is chained to a number expression. -/
inductive Zod.NumberCheck where
  | min (bound : Double) (message : String)
  | max (bound : Double) (message : String)
deriving DecidableEq, Repr

/-- A schema expression. -/
inductive Zod where
  | string (checks : List Zod.StringCheck)
  /-- A number, or a text that is not blank and spells one. -/
  | number (blankMessage : String) (checks : List Zod.NumberCheck)
  | boolean
  /-- Accepts true only. -/
  | mustBeTrue (message : String)
  /-- Accepts nothing. -/
  | never
  | enum (options : List String)
  | array (item : Zod)
  /-- A list expression that wants at least one item. -/
  | nonEmpty (list : Zod) (message : String)
  /-- Accepts the absent value too. -/
  | optional (inner : Zod)
  /-- Accepts the empty text too. -/
  | orEmpty (inner : Zod)
deriving DecidableEq, Repr

namespace Zod

open Source

/-- A chained call that takes a value and a message. -/
def call (name argument message : String) : String :=
  "." ++ name ++ "(" ++ argument ++ ", " ++ quote message ++ ")"

/-- A chained call that takes only a message. -/
def callMessage (name message : String) : String := "." ++ name ++ "(" ++ quote message ++ ")"

/-- The chained call of a check. -/
def StringCheck.text : StringCheck → String
  | .min n message => call "min" (toString n.toNat) message
  | .max n message => call "max" (toString n.toNat) message
  | .email message => callMessage "email" message
  | .regex pattern message => call "regex" ("/" ++ escapeRegex pattern ++ "/") message

/-- The chained call of a check. -/
def NumberCheck.text : NumberCheck → String
  | .min bound message => call "min" bound.plainText message
  | .max bound message => call "max" bound.plainText message

/-- The chained call that wants at least one item or character. -/
def atLeastOne (message : String) : String := call "min" "1" message

/-- The chained call that accepts the absent value. -/
def optionalCall : String := ".optional()"

/-- The expression that turns what passed the guard into a number. -/
def coercion : String :=
  "z.coerce.number(\x7b invalid_type_error: " ++ quote Schema.Message.invalidNumber ++ " \x7d)"

/-- The expression as it is written. -/
def text : Zod → String
  | .string checks => "z.string()" ++ String.join (checks.map StringCheck.text)
  | .number blankMessage checks =>
    "z.union([z.number(), z.string().trim()" ++ atLeastOne blankMessage ++ "]).pipe(" ++
      coercion ++ String.join (checks.map NumberCheck.text) ++ ")"
  | .boolean => "z.boolean()"
  | .mustBeTrue message =>
    "z.boolean().refine((val) => val === true, \x7b message: " ++ quote message ++ " \x7d)"
  | .never => "z.never()"
  | .enum options => "z.enum([" ++ ", ".intercalate (options.map quote) ++ "])"
  | .array item => "z.array(" ++ item.text ++ ")"
  | .nonEmpty list message => list.text ++ atLeastOne message
  | .optional inner => inner.text ++ optionalCall
  | .orEmpty inner => inner.text ++ ".or(z.literal(''))"

end Zod

end WebForm
