import WebForm.Form.Codec
import WebForm.Form.Repair
/-!
# Loading forms

From a document to a form that has been checked: decode, check the structural rules, and in
permissive mode repair what was put up with.
-/

set_option autoImplicit false

namespace WebForm

/-- Why a form could not be loaded. -/
inductive LoadError where
  /-- The document is no JSON, or does not have the shape of a form. -/
  | json (e : DecodeError)
  /-- The form breaks a structural rule. -/
  | structural (e : StructuralError)
deriving DecidableEq, Repr

/-- The wording of the error. -/
def LoadError.message : LoadError → String
  | .json e => "malformed JSON: " ++ e.message
  | .structural e => e.message

namespace Form

/-- Checks a decoded form and repairs it where the mode asks for that. -/
def accept (strictness : Strictness) (form : Form) : Except LoadError Form := do
  (form.check strictness).mapError .structural
  match strictness with
  | .strict => return form
  | .permissive => return form.repair

/-- Loads a form from a text. -/
def loadText (strictness : Strictness) (text : String) : Except LoadError Form := do
  (← (decodeText text).mapError .json).accept strictness

/-- Loads a form from a value. -/
def loadJson (strictness : Strictness) (value : Json) : Except LoadError Form := do
  (← (decodeJson value).mapError .json).accept strictness

end Form

end WebForm
