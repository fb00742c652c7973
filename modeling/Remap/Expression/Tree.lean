import Remap.Regex.Engine
import Remap.Model.Value

/-!
# Expressions as trees

What an expression means, apart from how it is written.
-/

namespace Remap.Expression

/-- A constant of an expression. -/
inductive Literal
  | null
  | boolean (b : Bool)
  | integer (n : Integer)
  | decimal (x : Float)
  | string (s : String)
  deriving Inhabited

/-- The value of a constant. -/
def Literal.value : Literal → Value
  | .null => .null
  | .boolean b => .boolean b
  | .integer n => .integer n
  | .decimal x => .decimal x
  | .string s => .string s

/-- An operator that needs the values of both operands. -/
inductive Operator
  | equal | notEqual | less | lessEqual | greater | greaterEqual | add | subtract
  deriving DecidableEq, Repr

/-- The sign of an operator. -/
def Operator.sign : Operator → String
  | .equal => "=="
  | .notEqual => "!="
  | .less => "<"
  | .lessEqual => "<="
  | .greater => ">"
  | .greaterEqual => ">="
  | .add => "+"
  | .subtract => "-"

/-- An expression. -/
inductive Expr
  | literal (l : Literal)
  /-- A property of the root. -/
  | property (name : String)
  | variable (name : String)
  | member (target : Expr) (name : String)
  | index (target position : Expr)
  | not (operand : Expr)
  | negate (operand : Expr)
  | or (left right : Expr)
  | and (left right : Expr)
  | binary (operator : Operator) (left right : Expr)
  /-- A match against a pattern that was read with the expression. -/
  | matchesRegex (subject : Expr) (regex : Regex)
  /-- A match against a pattern that is computed. -/
  | matchesDynamic (subject pattern : Expr)

instance : Inhabited Expr := ⟨.literal .null⟩

end Remap.Expression
