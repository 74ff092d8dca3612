/-!
# Errors of patterns

The reasons why a text is no pattern, and their wordings.
-/

set_option autoImplicit false

namespace WebForm.Pattern

/-- Why a text is no pattern. -/
inductive PatternError where
  | trailingBackslash
  | unknownEscape (c : Char)
  | badCodePoint
  | badProperty (name : String)
  | unclosedClass
  | badRange
  | unclosedGroup
  | unopenedGroup
  | badGroupName
  | unknownFlag
  | badReference
  | mixedReferences
  | badCondition
  | nothingToRepeat
  | badRepetition
  | variableLookBehind
  | tooDeep
  | tooLarge
deriving DecidableEq, Repr

/-- The wording of the error. -/
def PatternError.message : PatternError → String
  | .trailingBackslash => "backslash without following character"
  | .unknownEscape c => "invalid escape: \\" ++ c.toString
  | .badCodePoint => "invalid hexadecimal code point"
  | .badProperty name => "unknown property: " ++ name
  | .unclosedClass => "invalid character class"
  | .badRange => "invalid character class range"
  | .unclosedGroup => "opening parenthesis without closing parenthesis"
  | .unopenedGroup => "closing parenthesis without opening parenthesis"
  | .badGroupName => "could not parse group name"
  | .unknownFlag => "unknown group flag"
  | .badReference => "invalid back reference"
  | .mixedReferences => "numbered reference beside a named group"
  | .badCondition => "condition without a branch"
  | .nothingToRepeat => "target of repeat operator is invalid"
  | .badRepetition => "invalid repetition count range"
  | .variableLookBehind => "look-behind without a fixed length"
  | .tooDeep => "pattern too deeply nested"
  | .tooLarge => "pattern too large"

end WebForm.Pattern
