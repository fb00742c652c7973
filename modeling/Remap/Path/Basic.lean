import Remap.Expression.Evaluate

/-!
# Paths

A path names a place below a root value by properties and list positions. An expression is a path
if it is a property of the root followed by steps that are constant.
-/

namespace Remap

/-- One step of a path. -/
inductive Segment
  | property (name : String)
  | index (position : Nat)
  deriving DecidableEq, Repr, Inhabited

/-- A path with the text it was read from. -/
structure Path where
  text : String
  segments : List Segment
  deriving DecidableEq, Repr, Inhabited

namespace Path

/-- The step that a constant in brackets is. -/
def segmentOfLiteral? : Expression.Literal → Option Segment
  | .integer n => if 0 ≤ n.val then some (.index n.val.toNat) else none
  | .string key => some (.property key)
  | _ => none

/-- The steps of an expression, if it is a path. -/
def segmentsOf? : Expression.Expr → Option (List Segment)
  | .property name => some [.property name]
  | .member target name => (segmentsOf? target).map (· ++ [.property name])
  | .index target position => do
    let before ← segmentsOf? target
    match position with
    | .literal l => (segmentOfLiteral? l).map fun s => before ++ [s]
    | _ => none
  | _ => none

/-- The path that an expression is, if it is one. -/
def ofExpression? (e : Expression) : Option Path :=
  (segmentsOf? e.tree).map fun segments => ⟨e.text, segments⟩

/-- The path to a property of the root. -/
def ofProperty (name : String) : Path := ⟨Expression.propertyText name, [.property name]⟩

/-- The path that a text stands for. -/
def parse [Regex.Engine] (text : String) : Except Expression.ParseError Path := do
  let e ← Expression.parse text
  match ofExpression? e with
  | some path => return path
  | none => throw ⟨.notAssignable e.text, 0⟩

/-- The property of the root that the path starts with. -/
def rootProperty? (path : Path) : Option String :=
  match path.segments with
  | .property name :: _ => some name
  | _ => none

/-- The value one step below a value. -/
def readSegment (v : Value) : Segment → Except EvalError Value
  | .property name => Expression.readProperty v name
  | .index position =>
    match v with
    | .list items => Expression.readItem items position
    | .null => .error (.nullNavigation ("[" ++ toString position ++ "]"))
    | other => .error (.notIndexable other.kind)

/-- The value at the end of some steps. -/
def readSegments (v : Value) : List Segment → Except EvalError Value
  | [] => .ok v
  | s :: rest => do
    let w ← readSegment v s
    readSegments w rest

/-- The value at the path. -/
def read (path : Path) (root : Value) : Except EvalError Value :=
  readSegments root path.segments

end Path

end Remap
