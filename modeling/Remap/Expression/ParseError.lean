import Remap.Expression.Token
import Remap.Regex.Engine

/-!
# Errors of reading expressions

Each cause for which a text is no expression or no path, with the character offset it is reported
at, and the sentence for it.
-/

namespace Remap.Expression

/-- Why a text cannot be read. -/
inductive ParseFailure
  /-- Nothing but blanks. -/
  | empty
  /-- A character outside the language. -/
  | unexpectedCharacter (c : Char)
  /-- A string without its closing quote. -/
  | unterminatedString
  /-- A `#` without a name. -/
  | missingVariableName
  /-- A whole number out of range. -/
  | integerTooLarge (text : String)
  /-- Digits that are no number. -/
  | invalidNumber (text : String)
  /-- More levels than allowed. -/
  | nestedTooDeeply
  /-- Another token than the one that has to follow. -/
  | expected (wanted found : Token)
  /-- A point without a name after it. -/
  | expectedPropertyName (found : Token)
  /-- An opening bracket at the start of an operand without a string after it. -/
  | expectedQuotedKey (found : Token)
  /-- A token that no operand starts with. -/
  | unexpected (found : Token)
  /-- The negation of a literal out of range. -/
  | literalOverflow
  /-- A literal pattern that is no regular expression. -/
  | invalidPattern (pattern : String) (cause : Regex.ReadError)
  /-- An expression that cannot be assigned to. -/
  | notAssignable (text : String)

/-- The sentence for a failure. -/
def ParseFailure.message : ParseFailure → String
  | .empty => "Empty expression"
  | .unexpectedCharacter c => "Unexpected character '" ++ String.singleton c ++ "'"
  | .unterminatedString => "Unterminated string literal"
  | .missingVariableName => "Expected variable name after '#'"
  | .integerTooLarge text => "Integer '" ++ text ++ "' is too large"
  | .invalidNumber text => "Invalid number '" ++ text ++ "'"
  | .nestedTooDeeply => "Expression nested too deeply"
  | .expected wanted found => "Expected " ++ wanted.describe ++ ", found " ++ found.describe
  | .expectedPropertyName found => "Expected property name after '.', found " ++ found.describe
  | .expectedQuotedKey found => "Expected quoted key after '[', found " ++ found.describe
  | .unexpected found => "Unexpected " ++ found.describe
  | .literalOverflow => "Integer literal overflows"
  | .invalidPattern pattern cause =>
    "Invalid regular expression '" ++ pattern ++ "': " ++ cause.message
  | .notAssignable text => "'" ++ text ++ "' is not an assignable property path"

/-- A failure and the offset, in characters, that it is reported at. -/
structure ParseError where
  failure : ParseFailure
  offset : Nat

/-- The sentence for an error, without its place. -/
def ParseError.message (e : ParseError) : String := e.failure.message

/-- The sentence for an error with its place. -/
def ParseError.text (e : ParseError) : String :=
  e.message ++ " at offset " ++ String.ofList (Number.digits e.offset)

end Remap.Expression
