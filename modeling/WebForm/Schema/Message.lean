import WebForm.Number.Layout
import WebForm.Text.LowerCase
/-!
# Messages to the user

The wording of what is wrong with a submitted value. The validators and the generated schema use
the same functions, so both report the same text.
-/

set_option autoImplicit false

namespace WebForm.Schema.Message

def email : String := "Please enter a valid email address"

def pattern : String := "Please enter a valid format"

def invalidNumber : String := "Please enter a valid number"

/-- For an empty item of a list of primitives. -/
def itemRequired : String := "This field is required"

def required (label : String) : String := s!"{label} is required"

def mustBeChecked (label : String) : String := s!"{label} must be checked"

def minLength (n : UInt64) : String := s!"Minimum {n.toNat} characters required"

def maxLength (n : UInt64) : String := s!"Maximum {n.toNat} characters allowed"

def minValue (n : Double) : String := "Minimum value is " ++ n.plainText

def maxValue (n : Double) : String := "Maximum value is " ++ n.plainText

def minItems (label : String) : String := "At least one " ++ Text.lower label ++ " is required"

def invalidOption (label : String) : String := s!"{label} must be one of the available options"

/-- For a value of the wrong JSON type. -/
def invalidType (expected : String) : String := s!"Expected {expected}"

end WebForm.Schema.Message
