import WebForm.Json.Decode
import WebForm.Text.Lines
/-!
# Lines of source text

Generated code is a list of lines, each at a depth. Nothing about the depth or the lines depends
on the style in which they are written: the style only says what one step of indentation is and
how a line ends. An empty line has no indentation.
-/

set_option autoImplicit false

namespace WebForm.Source

/-- A line of code at a depth. -/
structure Line where
  depth : Nat
  text : String
deriving DecidableEq, Repr

namespace Line

/-- An empty line. -/
def blank : Line := ⟨0, ""⟩

/-- The lines of a text, all at one depth. -/
def block (depth : Nat) (text : String) : List Line := (Text.lines text).map fun l => ⟨depth, l⟩

end Line

/-! ## Styles -/

/-- One step of indentation. -/
inductive Indent where
  | spaces2 | spaces4 | tabs
deriving DecidableEq, Repr

/-- How a line ends. -/
inductive LineEnding where
  | lf | crlf
deriving DecidableEq, Repr

namespace Indent

/-- The text of one step. -/
def unit : Indent → String
  | .spaces2 => "  "
  | .spaces4 => "    "
  | .tabs => "\t"

/-- The spelling in a configuration. -/
def spelling : Indent → String
  | .spaces2 => "spaces2"
  | .spaces4 => "spaces4"
  | .tabs => "tabs"

/-- The indentation of a spelling. -/
def ofSpelling? : String → Option Indent
  | "spaces2" => some .spaces2
  | "spaces4" => some .spaces4
  | "tabs" => some .tabs
  | _ => none

@[simp] theorem ofSpelling?_spelling (i : Indent) : ofSpelling? i.spelling = some i := by
  cases i <;> rfl

/-- The text of some steps. -/
def steps (i : Indent) (depth : Nat) : String := String.join (List.replicate depth i.unit)

end Indent

namespace LineEnding

/-- The text of the line end. -/
def text : LineEnding → String
  | .lf => "\n"
  | .crlf => "\r\n"

/-- The spelling in a configuration. -/
def spelling : LineEnding → String
  | .lf => "lf"
  | .crlf => "crlf"

/-- The line end of a spelling. -/
def ofSpelling? : String → Option LineEnding
  | "lf" => some .lf
  | "crlf" => some .crlf
  | _ => none

@[simp] theorem ofSpelling?_spelling (e : LineEnding) : ofSpelling? e.spelling = some e := by
  cases e <;> rfl

end LineEnding

/-- The style of generated code. -/
structure Style where
  indent : Indent := .spaces2
  lineEnding : LineEnding := .lf
deriving DecidableEq, Repr

namespace Style

/-- A line as it is written. -/
def line (style : Style) (l : Line) : String :=
  if l.text.isEmpty then style.lineEnding.text
  else style.indent.steps l.depth ++ l.text ++ style.lineEnding.text

/-- Lines as they are written, one after the other. -/
def lines (style : Style) (ls : List Line) : String := String.join (ls.map style.line)

@[simp] theorem line_blank (style : Style) : style.line .blank = style.lineEnding.text := rfl

@[simp] theorem lines_nil (style : Style) : style.lines [] = "" := rfl

theorem lines_append (style : Style) (a b : List Line) :
    style.lines (a ++ b) = style.lines a ++ style.lines b := by
  simp [lines, String.join_append]

/-! ## Decoding -/

/-- A style as far as a document has given it. -/
structure Slots where
  indent : Option Indent := none
  lineEnding : Option LineEnding := none

/-- What the slots hold; an empty one takes the default. -/
def Slots.finish (s : Slots) : Style := ⟨s.indent.getD .spaces2, s.lineEnding.getD .lf⟩

open Decode in
/-- Decodes one member. -/
def Slots.member (s : Slots) (name : String) (d : Draft) : Decoded Slots :=
  match name with
  | "indent" => do
    fresh name s.indent
    let indent ← choice Indent.ofSpelling? "one of `spaces2`, `spaces4`, `tabs`" d
    return { s with indent := some indent }
  | "line_ending" => do
    fresh name s.lineEnding
    let lineEnding ← choice LineEnding.ofSpelling? "`lf` or `crlf`" d
    return { s with lineEnding := some lineEnding }
  | _ => do
    ignore d
    return s

/-- The members in the order of the array form. -/
def memberNames : List String := ["indent", "line_ending"]

/-- Decodes a style. -/
def decode (o : Origin) (d : Draft) : Decoded Style :=
  match d with
  | .object members ending => do
    let _ ← o.enter
    let s ← members.foldlM (fun (s : Slots) (k, value) => do s.member (← Decode.key k) value) {}
    Decode.closeWith s.finish ending
  | .array items ending => do
    let _ ← o.enter
    let s ← (memberNames.zip items).foldlM (fun (s : Slots) (name, value) => s.member name value) {}
    if memberNames.length < items.length then .error (o.tooLong items.length)
    else Decode.closeWith s.finish ending
  | d => .error (Decode.unexpected d "struct EmitterConfig")

/-- Decodes a style from a value. -/
def ofJson (value : Json) : Decoded Style := decode .value (.ofJson value)

end Style

end WebForm.Source
