import WebForm.Text.Blank
/-!
# Identifiers from titles

The names that generated code derives from the title of a form. The ASCII letters and digits of
the title are cut into words: wherever another character stands, and between neighbours whose
classes change the way they do from one word to the next. The type identifier writes every word
with a capital, the value identifier all but the first; joining single letters can make new words
appear, so the type identifier is cased again until it no longer changes.
-/

set_option autoImplicit false

namespace WebForm

/-- Why a title gives no identifier. -/
inductive IdentifierError where
  | emptyTitle
  | noLetters (title : String)
deriving DecidableEq, Repr

/-- The wording of the error. -/
def IdentifierError.message : IdentifierError → String
  | .emptyTitle => "form title must not be empty"
  | .noLetters title => s!"form title '{title}' contains no letters to derive an identifier from"

namespace Identifier

/-! ## Words -/

/-- Characters between words, which belong to none. -/
def isSeparator (c : Char) : Bool := c == ' ' || c == '_' || c == '-'

/-- Whether a word ends between two neighbours, given the character after them. The last capital
of a run belongs to the small letter behind it. -/
def isBoundary (a b : Char) (next : Option Char) : Bool :=
  (a.isLower && b.isUpper) || (a.isLower && b.isDigit) || (a.isUpper && b.isDigit) ||
    (a.isDigit && b.isLower) || (a.isDigit && b.isUpper) ||
    (a.isUpper && b.isUpper && (next.map Char.isLower).getD false)

/-- Cuts a text into words; `word` holds the characters of the current one in reverse. -/
def cutWords (word : List Char) : List Char → List (List Char)
  | [] => if word.isEmpty then [] else [word.reverse]
  | c :: rest =>
    if isSeparator c then
      if word.isEmpty then cutWords [] rest else word.reverse :: cutWords [] rest
    else
      match word with
      | [] => cutWords [c] rest
      | last :: _ =>
        if isBoundary last c rest.head? then word.reverse :: cutWords [c] rest
        else cutWords (c :: word) rest

/-- The words of a text. -/
def words (cs : List Char) : List (List Char) := cutWords [] cs

/-! ## Casing -/

/-- A word with a capital and small letters behind it. -/
def capitalize : List Char → List Char
  | [] => []
  | c :: rest => c.toUpper :: rest.map Char.toLower

/-- All words with a capital. -/
def pascal (cs : List Char) : List Char := (words cs).flatMap capitalize

/-- All words but the first with a capital. -/
def camel (cs : List Char) : List Char :=
  match words cs with
  | [] => []
  | first :: rest => first.map Char.toLower ++ rest.flatMap capitalize

/-- Cases a text again until it no longer changes; each round but the last loses a capital. -/
def settle : Nat → List Char → List Char
  | 0, cs => cs
  | rounds + 1, cs => if pascal cs = cs then cs else settle rounds (pascal cs)

/-! ## Titles -/

/-- The letters and digits of a title from its first letter on, with spaces for all others. -/
def usable (title : String) : List Char :=
  (title.toList.map fun c => if c.isAlphanum then c else ' ').dropWhile fun c => !c.isAlpha

/-- The type identifier of a title. -/
def typeName (title : String) : Except IdentifierError String :=
  if Text.isBlank title then .error .emptyTitle
  else
    match usable title with
    | [] => .error (.noLetters title)
    | cs =>
      let first := pascal cs
      .ok (String.ofList (settle (first.length + 1) first))

/-- The value identifier that belongs to a type identifier. -/
def valueNameOf (typeName : String) : String := String.ofList (camel typeName.toList)

/-- The value identifier of a title. -/
def valueName (title : String) : Except IdentifierError String :=
  (typeName title).map valueNameOf

end Identifier

/-- The names that one form goes by in generated code. -/
structure Identifiers where
  typeName : String
  valueName : String
deriving DecidableEq, Repr

namespace Identifiers

/-- The identifiers of a title. -/
def ofTitle (title : String) : Except IdentifierError Identifiers := do
  let typeName ← Identifier.typeName title
  return ⟨typeName, Identifier.valueNameOf typeName⟩

/-- The constant that holds the schema. -/
def schemaName (ids : Identifiers) : String := ids.valueName ++ "Schema"

/-- The type of the submitted data. -/
def formDataType (ids : Identifiers) : String := ids.typeName ++ "FormData"

/-- The component. -/
def componentName (ids : Identifiers) : String := ids.typeName

/-- The properties of the component. -/
def propsName (ids : Identifiers) : String := ids.typeName ++ "Props"

/-- The file that holds the component. -/
def componentFile (ids : Identifiers) : String := ids.typeName ++ ".tsx"

end Identifiers

end WebForm
