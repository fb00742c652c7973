import Remap.Convert.Transform
import Remap.Expression.EvalError
import Remap.Expression.ParseError
import Remap.Model.Record

/-!
# Results of a pass

Each entry of a pass leaves one result: a value that was mapped, a skip, or a failure with its
cause. A mapper fails with the results of its pass, and such a failure can be the cause of a
failure in the pass around it, which is why errors and results refer to each other.
-/

namespace Remap

/-- How much a failure weighs. -/
inductive Severity
  | info | warning | error
  deriving DecidableEq, Repr

/-- The word for a severity. -/
def Severity.text : Severity → String
  | .info => "info"
  | .warning => "warning"
  | .error => "error"

/-- The part of a mapping that an error speaks of. -/
inductive Role
  | source | target | condition
  deriving DecidableEq, Repr

/-- The word for a role. -/
def Role.text : Role → String
  | .source => "source"
  | .target => "target"
  | .condition => "condition"

/-- Why an entry failed; `ε` is what a nested mapper fails with. -/
inductive CauseOf (ε : Type)
  /-- The guard has no verdict. -/
  | condition (e : EvalError)
  /-- The source has no value. -/
  | read (e : EvalError)
  /-- The entry's converter refused the value. -/
  | conversion (e : ConversionError)
  /-- The target could not be written. -/
  | write (e : EvalError)
  /-- A nested mapper failed. -/
  | nested (e : ε)

/-- What became of an entry. -/
inductive OutcomeOf (ε : Type)
  /-- The value that was mapped, before it was fitted to its place. -/
  | success (v : Value)
  | skipped
  | failure (cause : CauseOf ε) (severity : Severity)

/-- The result of an entry: its two labels, whether it was found by name, and its outcome. -/
structure ResultOf (ε : Type) where
  source : String
  target : String
  auto : Bool
  outcome : OutcomeOf ε

/-- Why a mapper cannot be built or fails. -/
inductive MappingError
  /-- A text of the mapping is no expression or no path. -/
  | configuration (role : Role) (expression : String) (cause : Expression.ParseError)
  | invalidConfiguration (message : String)
  /-- The source or the target is null. -/
  | missingArgument (role : Role)
  /-- The pass had failures that the policy does not tolerate. -/
  | failures (results : List (ResultOf MappingError))
  /-- A value does not fit its declared type. -/
  | model (e : ModelError)

/-- Why an entry failed. -/
abbrev FailureCause := CauseOf MappingError

/-- What became of an entry. -/
abbrev Outcome := OutcomeOf MappingError

/-- The result of an entry. -/
abbrev MappingResult := ResultOf MappingError

namespace ResultOf

variable {ε : Type}

/-- A value was mapped. -/
def isSuccess (r : ResultOf ε) : Bool :=
  match r.outcome with
  | .success _ => true
  | _ => false

/-- Nothing was done. -/
def isSkipped (r : ResultOf ε) : Bool :=
  match r.outcome with
  | .skipped => true
  | _ => false

/-- The entry failed. -/
def isFailure (r : ResultOf ε) : Bool :=
  match r.outcome with
  | .failure .. => true
  | _ => false

/-- The entry failed with the highest severity. -/
def isError (r : ResultOf ε) : Bool :=
  match r.outcome with
  | .failure _ .error => true
  | _ => false

/-- The two labels, and a mark for an entry that was found by name. -/
def label (r : ResultOf ε) : String :=
  r.source ++ " -> " ++ r.target ++ (if r.auto then " (auto)" else "")

end ResultOf

/-- The sentence for a text that is no expression. -/
def configurationMessage (role : Role) (expression : String) (cause : Expression.ParseError) :
    String :=
  "The mapping " ++ role.text ++ " '" ++ expression ++ "' is not a valid expression: " ++ cause.text

/-- Texts of results between brackets. -/
def bracketResults (texts : List String) : String :=
  "[MappingResults = [" ++ ", ".intercalate texts ++ "]]"

mutual
/-- The sentence for a mapping error. -/
def MappingError.message : MappingError → String
  | .configuration role expression cause => configurationMessage role expression cause
  | .invalidConfiguration message => "Mapping configuration error: " ++ message
  | .missingArgument role => "The " ++ role.text ++ " to map cannot be null"
  | .failures results => "Mapping failed: " ++ bracketResults (resultTexts results)
  | .model e => "Model error: " ++ e.message

/-- The texts of results in order. -/
def resultTexts : List (ResultOf MappingError) → List String
  | [] => []
  | ⟨source, target, auto, outcome⟩ :: rest =>
    let label := (ResultOf.mk (ε := MappingError) source target auto .skipped).label
    (label ++ outcomeText outcome) :: resultTexts rest

/-- What a result says after its labels. -/
def outcomeText : OutcomeOf MappingError → String
  | .success v => ": success [" ++ v.text ++ "]"
  | .skipped => ": skipped"
  | .failure cause severity => ": " ++ severity.text ++ " [" ++ causeText cause ++ "]"

/-- The sentence for a cause. -/
def causeText : CauseOf MappingError → String
  | .condition e => "condition failed: " ++ e.message
  | .read e => "read failed: " ++ e.message
  | .conversion e => "conversion failed: " ++ e.message
  | .write e => "write failed: " ++ e.message
  | .nested e => "nested mapping failed: " ++ e.message
end

/-- The text of a result. -/
def MappingResult.text (r : MappingResult) : String := r.label ++ outcomeText r.outcome

/-- The text of the results of a pass. -/
def resultsText (results : List MappingResult) : String := bracketResults (resultTexts results)

/-- The first result that has a target label. -/
def resultFor? (results : List MappingResult) (target : String) : Option MappingResult :=
  results.find? (·.target == target)

end Remap
