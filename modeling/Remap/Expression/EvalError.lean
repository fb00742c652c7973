import Remap.Regex.Engine
import Remap.Model.Value

/-!
# Errors of evaluating, reading and writing

Each cause for which an expression has no value or a path cannot be read or written, and the
sentence for it.
-/

namespace Remap

/-- Why an expression has no value, or a path cannot be read or written. -/
inductive EvalError
  /-- The value has no such property. -/
  | propertyNotFound (property type : String)
  /-- A step from null. -/
  | nullNavigation (property : String)
  | indexOutOfBounds (index : Int) (length : Nat)
  /-- A value of this kind has no items. -/
  | notIndexable (kind : String)
  | unknownVariable (name : String)
  /-- The operator does not take these kinds of operands. -/
  | typeMismatch (operator operands : String)
  /-- A computed pattern that is no regular expression. -/
  | invalidPattern (pattern : String) (cause : Regex.ReadError)
  /-- An integer result out of range; `text` shows the operation. -/
  | overflow (text : String)
  | notWritable (path reason : String)
  /-- The value does not convert to the declared type. -/
  | conversion (source target message : String)
  deriving DecidableEq, Repr

/-- The sentence for an error. -/
def EvalError.message : EvalError → String
  | .propertyNotFound property type => "Property '" ++ property ++ "' not found on " ++ type
  | .nullNavigation property => "Cannot access '" ++ property ++ "' on null"
  | .indexOutOfBounds index length =>
    "Index " ++ toString index ++ " out of bounds for list of length " ++ toString length
  | .notIndexable kind => "Cannot index into " ++ kind
  | .unknownVariable name => "Unknown variable '#" ++ name ++ "'"
  | .typeMismatch operator operands =>
    "Operator '" ++ operator ++ "' cannot be applied to " ++ operands
  | .invalidPattern pattern cause =>
    "Invalid regular expression '" ++ pattern ++ "': " ++ cause.message
  | .overflow text => "Arithmetic overflow evaluating '" ++ text ++ "'"
  | .notWritable path reason => "Path '" ++ path ++ "' is not writable: " ++ reason
  | .conversion source target message =>
    "Cannot convert " ++ source ++ " to " ++ target ++ ": " ++ message

end Remap
