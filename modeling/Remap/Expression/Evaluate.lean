import Remap.Expression.Basic
import Remap.Expression.EvalError
import Remap.Model.Record

/-!
# Evaluating expressions

The value of an expression for a root value and variables. Missing fields of records without
declarations read as null, a step from null is an error. Integer arithmetic is exact or reports
an overflow; integers and decimals together are decimals.
-/

namespace Remap.Expression

/-- What names refer to: properties are those of the root, variables are listed, a later one
hiding an earlier one of its name. -/
structure Environment where
  root : Value
  bindings : List (String × Value) := []

/-- With one more variable. -/
def Environment.withVariable (env : Environment) (name : String) (v : Value) : Environment :=
  { env with bindings := Fields.put env.bindings name v }

/-- A property of a value. -/
def readProperty (target : Value) (name : String) : Except EvalError Value :=
  match target with
  | .record r =>
    match r.get? name with
    | some v => .ok v
    | none =>
      if r.accepts name then .ok .null
      else .error (.propertyNotFound name (r.typeName?.getD "record"))
  | .null => .error (.nullNavigation name)
  | other => .error (.propertyNotFound name other.kind)

/-- An item of a list. -/
def readItem (items : List Value) (index : Int) : Except EvalError Value :=
  let found := if 0 ≤ index then items[index.toNat]? else none
  match found with
  | some v => .ok v
  | none => .error (.indexOutOfBounds index items.length)

/-- The value at a position of a list, or the property of a record that a text names. -/
def readIndex (target position : Value) : Except EvalError Value :=
  match target, position with
  | .list items, .integer n => readItem items n.val
  | .record r, .string key => readProperty (.record r) key
  | .null, position => .error (.nullNavigation ("[" ++ position.text ++ "]"))
  | .list _, position => .error (.typeMismatch "[]" ("list and " ++ position.kind))
  | other, _ => .error (.notIndexable other.kind)

/-- A truth value: null counts as false. -/
def truth (v : Value) (operator : String) : Except EvalError Bool :=
  match v with
  | .boolean b => .ok b
  | .null => .ok false
  | other => .error (.typeMismatch operator other.kind)

/-- Two kinds in a message. -/
def kinds (left right : Value) : String := left.kind ++ " and " ++ right.kind

/-- The negation of a number. -/
def negateValue (v : Value) : Except EvalError Value :=
  match v with
  | .integer n =>
    match n.neg? with
    | some m => .ok (.integer m)
    | none => .error (.overflow ("-" ++ n.text))
  | .decimal x => .ok (.decimal (-x))
  | other => .error (.typeMismatch "-" other.kind)

/-- Equality of two values: numbers by value whatever their kind. -/
def equalValues (left right : Value) : Bool :=
  match left, right with
  | .integer a, .integer b => a.val == b.val
  | .integer a, .decimal y => Number.ofInt a.val == y
  | .decimal x, .integer b => x == Number.ofInt b.val
  | left, right => left.same right

/-- The order of two integers, two texts or two numbers; not-a-number has none. -/
def compareValues (operator : Operator) (left right : Value) : Except EvalError Ordering :=
  match left, right with
  | .integer a, .integer b => .ok (compare a.val b.val)
  | .string a, .string b => .ok (compare a b)
  | left, right =>
    match left.asDecimal?, right.asDecimal? with
    | some x, some y =>
      if x < y then .ok .lt
      else if x == y then .ok .eq
      else if y < x then .ok .gt
      else .error (.typeMismatch operator.sign "NaN")
    | _, _ => .error (.typeMismatch operator.sign (kinds left right))

/-- The sum of numbers, or the texts of two values of which one is a text. -/
def addValues (left right : Value) : Except EvalError Value :=
  match left, right with
  | .integer a, .integer b =>
    match a.add? b with
    | some c => .ok (.integer c)
    | none => .error (.overflow (a.text ++ " + " ++ b.text))
  | .string a, right => .ok (.string (a ++ right.text))
  | left, .string b => .ok (.string (left.text ++ b))
  | left, right =>
    match left.asDecimal?, right.asDecimal? with
    | some x, some y => .ok (.decimal (x + y))
    | _, _ => .error (.typeMismatch "+" (kinds left right))

/-- The difference of numbers. -/
def subtractValues (left right : Value) : Except EvalError Value :=
  match left, right with
  | .integer a, .integer b =>
    match a.sub? b with
    | some c => .ok (.integer c)
    | none => .error (.overflow (a.text ++ " - " ++ b.text))
  | left, right =>
    match left.asDecimal?, right.asDecimal? with
    | some x, some y => .ok (.decimal (x - y))
    | _, _ => .error (.typeMismatch "-" (kinds left right))

/-- An operator on two values that have both been computed. -/
def applyOperator (operator : Operator) (left right : Value) : Except EvalError Value := do
  match operator with
  | .equal => return .boolean (equalValues left right)
  | .notEqual => return .boolean (!equalValues left right)
  | .less => return .boolean ((← compareValues .less left right) == .lt)
  | .lessEqual => return .boolean ((← compareValues .lessEqual left right) != .gt)
  | .greater => return .boolean ((← compareValues .greater left right) == .gt)
  | .greaterEqual => return .boolean ((← compareValues .greaterEqual left right) != .lt)
  | .add => addValues left right
  | .subtract => subtractValues left right

/-- The text of a match subject; null has none and matches nothing. -/
def matchSubject (v : Value) : Except EvalError (Option String) :=
  match v with
  | .string s => .ok (some s)
  | .null => .ok none
  | other => .error (.typeMismatch "matches" other.kind)

variable [Regex.Engine]

/-- A text matched against a computed pattern. -/
def matchComputed (text : String) (pattern : Value) : Except EvalError Bool :=
  match pattern with
  | .string p =>
    match Regex.Engine.read (wholeMatch p) with
    | .ok regex => .ok (regex.isMatch text)
    | .error cause => .error (.invalidPattern p cause)
  | other => .error (.typeMismatch "matches" ("string and " ++ other.kind))

/-- The value of an expression. The right operand of `||` and `&&`, and a computed pattern, are
evaluated only if they matter. -/
def Expr.evaluate (env : Environment) : Expr → Except EvalError Value
  | .literal l => .ok l.value
  | .property name => readProperty env.root name
  | .variable name =>
    match Fields.get? env.bindings name with
    | some v => .ok v
    | none => .error (.unknownVariable name)
  | .member target name => do
    let target ← target.evaluate env
    readProperty target name
  | .index target position => do
    let target ← target.evaluate env
    let position ← position.evaluate env
    readIndex target position
  | .not operand => do
    let operand ← operand.evaluate env
    let b ← truth operand "!"
    return .boolean (!b)
  | .negate operand => do
    let operand ← operand.evaluate env
    negateValue operand
  | .or left right => do
    let left ← left.evaluate env
    let b ← truth left "||"
    if b then return .boolean true
    let right ← right.evaluate env
    let c ← truth right "||"
    return .boolean c
  | .and left right => do
    let left ← left.evaluate env
    let b ← truth left "&&"
    if !b then return .boolean false
    let right ← right.evaluate env
    let c ← truth right "&&"
    return .boolean c
  | .binary operator left right => do
    let left ← left.evaluate env
    let right ← right.evaluate env
    applyOperator operator left right
  | .matchesRegex subject regex => do
    let subject ← subject.evaluate env
    match ← matchSubject subject with
    | some text => return .boolean (regex.isMatch text)
    | none => return .boolean false
  | .matchesDynamic subject pattern => do
    let subject ← subject.evaluate env
    match ← matchSubject subject with
    | some text =>
      let pattern ← pattern.evaluate env
      let b ← matchComputed text pattern
      return .boolean b
    | none => return .boolean false

end Remap.Expression

namespace Remap

variable [Regex.Engine]

/-- The value of an expression. -/
def Expression.evaluate (e : Expression) (env : Expression.Environment) : Except EvalError Value :=
  e.tree.evaluate env

/-- The verdict of a guard: null counts as false, anything but a truth value is an error. -/
def Expression.holds (e : Expression) (env : Expression.Environment) : Except EvalError Bool := do
  let v ← e.evaluate env
  match v with
  | .boolean b => return b
  | .null => return false
  | other => throw (.typeMismatch "condition" (other.kind ++ " (expected boolean)"))

end Remap
