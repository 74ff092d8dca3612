import WebForm.Component.Path
import WebForm.Source.Comment
import WebForm.Source.Style
/-!
# Markup

The elements that a component renders, as a tree, and how the tree is written over lines. An
element either stacks its attributes, one a line, or has them on the line of its opening tag.
-/

set_option autoImplicit false

namespace WebForm.Component

open Source

/-- An attribute of an element. -/
inductive Attribute where
  /-- A constant of the generated code. -/
  | constant (name value : String)
  /-- A text of the form. -/
  | text (name value : String)
  /-- An expression. -/
  | code (name value : String)
  /-- A variable of the same name as the attribute. -/
  | binding (name : String)
  /-- The path of a field. -/
  | path (name : String) (path : FieldPath)
  /-- The attributes that register an input under a path. -/
  | register (path : FieldPath)
deriving DecidableEq, Repr

/-- The attribute as it is written. -/
def Attribute.write : Attribute → String
  | .constant name value => name ++ "=\"" ++ value ++ "\""
  | .text name value => name ++ "=" ++ attributeText value
  | .code name value => name ++ "=" ++ braced value
  | .binding name => name ++ "=" ++ braced name
  | .path name p => name ++ "=" ++ p.inAttribute
  | .register p => braced ("...register(" ++ p.inCall ++ ")")

/-- A piece of markup. -/
inductive Markup where
  /-- An empty line. -/
  | blank
  /-- A line that holds no element. -/
  | text (line : String)
  | attr (a : Attribute)
  /-- A comment in place of a field of an unknown kind. -/
  | unsupported (type path : String)
  /-- Lines between a head and a tail, some steps deeper than these. -/
  | block (steps : Nat) (head : String) (inner : List Markup) (tail : String)
  /-- An element without content, its attributes stacked. -/
  | void (tag : String) (attributes : List Markup)
  /-- An element with content, its attributes stacked. -/
  | stacked (tag : String) (attributes content : List Markup)
  /-- An element with content, its attributes on the line of the opening tag. -/
  | inline (tag : String) (attributes : List Attribute) (content : List Markup)
  /-- An element without content on one line. -/
  | mark (tag : String)
  /-- An element around a text of the form, on one line. -/
  | label (tag text : String)
deriving Repr

namespace Markup

/-- Attributes on the line of an opening tag. -/
def attributesText (attributes : List Attribute) : String :=
  String.join (attributes.map fun a => " " ++ a.write)

/-- The tag that closes an element. -/
def closing (tag : String) : String := "</" ++ tag ++ ">"

mutual

/-- The lines of a piece of markup. -/
def lines (depth : Nat) : Markup → List Line
  | .blank => [.blank]
  | .text line => [⟨depth, line⟩]
  | .attr a => [⟨depth, a.write⟩]
  | .unsupported type path => [⟨depth, unsupportedElement type path⟩]
  | .block steps head inner tail =>
    ⟨depth, head⟩ :: allLines (depth + steps) inner ++ [⟨depth, tail⟩]
  | .void tag attributes =>
    ⟨depth, "<" ++ tag⟩ :: allLines (depth + 1) attributes ++ [⟨depth, "/>"⟩]
  | .stacked tag attributes content =>
    ⟨depth, "<" ++ tag⟩ :: allLines (depth + 1) attributes ++
      ⟨depth, ">"⟩ :: allLines (depth + 1) content ++ [⟨depth, closing tag⟩]
  | .inline tag attributes content =>
    ⟨depth, "<" ++ tag ++ attributesText attributes ++ ">"⟩ :: allLines (depth + 1) content ++
      [⟨depth, closing tag⟩]
  | .mark tag => [⟨depth, "<" ++ tag ++ " />"⟩]
  | .label tag s => [⟨depth, "<" ++ tag ++ ">" ++ childText s ++ closing tag⟩]
termination_by structural m => m

/-- The lines of pieces one after the other. -/
def allLines (depth : Nat) : List Markup → List Line
  | [] => []
  | m :: rest => lines depth m ++ allLines depth rest
termination_by structural ms => ms

end

/-- Pieces are written one after the other. -/
theorem allLines_eq_flatMap (depth : Nat) (ms : List Markup) :
    allLines depth ms = ms.flatMap (lines depth) := by
  induction ms with
  | nil => rfl
  | cons m rest ih => simp [allLines, ih]

end Markup

end WebForm.Component
