import Remap.Expression.Evaluate

/-!
# The variables of an expression

The value of an expression depends on the root and on the variables that occur in it. Other
variables may be bound to anything.
-/

namespace Remap

namespace Expression

/-- The names of the variables that occur in an expression. -/
def Expr.variables : Expr → List String
  | .literal _ => []
  | .property _ => []
  | .variable name => [name]
  | .member target _ => target.variables
  | .index target position => target.variables ++ position.variables
  | .not operand => operand.variables
  | .negate operand => operand.variables
  | .or left right => left.variables ++ right.variables
  | .and left right => left.variables ++ right.variables
  | .binary _ left right => left.variables ++ right.variables
  | .matchesRegex subject _ => subject.variables
  | .matchesDynamic subject pattern => subject.variables ++ pattern.variables

/-- Two environments agree on the root and on some variables. -/
structure Environment.Agrees (env other : Environment) (names : List String) : Prop where
  root : env.root = other.root
  bound : ∀ name ∈ names, Fields.get? env.bindings name = Fields.get? other.bindings name

namespace Environment.Agrees

variable {env other : Environment} {names more : List String}

theorem left (agrees : env.Agrees other (names ++ more)) : env.Agrees other names :=
  ⟨agrees.root, fun name member => agrees.bound name (List.mem_append_left more member)⟩

theorem right (agrees : env.Agrees other (names ++ more)) : env.Agrees other more :=
  ⟨agrees.root, fun name member => agrees.bound name (List.mem_append_right names member)⟩

end Environment.Agrees

/-- Environments that agree on the variables of an expression give it the same value. -/
theorem Expr.evaluate_eq_of_agrees [Regex.Engine] {env other : Environment} (e : Expr)
    (agrees : env.Agrees other e.variables) : e.evaluate env = e.evaluate other := by
  induction e with
  | literal => rfl
  | property name => simp only [evaluate, agrees.root]
  | «variable» name => simp only [evaluate, agrees.bound name List.mem_cons_self]
  | member target name ih => simp only [evaluate, ih agrees]
  | not operand ih => simp only [evaluate, ih agrees]
  | negate operand ih => simp only [evaluate, ih agrees]
  | matchesRegex subject regex ih => simp only [evaluate, ih agrees]
  | index _ _ ihLeft ihRight | or _ _ ihLeft ihRight | and _ _ ihLeft ihRight
  | binary _ _ _ ihLeft ihRight | matchesDynamic _ _ ihLeft ihRight =>
    simp only [evaluate, ihLeft agrees.left, ihRight agrees.right]

end Expression

/-- Environments that agree on the variables of a guard give the same verdict. -/
theorem Expression.holds_eq_of_agrees [Regex.Engine] {env other : Environment} (e : Expression)
    (agrees : env.Agrees other e.tree.variables) : e.holds env = e.holds other := by
  rw [holds, holds, evaluate, evaluate, e.tree.evaluate_eq_of_agrees agrees]

end Remap
