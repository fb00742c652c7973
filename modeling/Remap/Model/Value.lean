import Remap.Model.Fields
import Remap.Model.Types
import Remap.Number.Integer
import Remap.Number.Text

/-!
# Values

The tree of values that documents are read into, expressions compute on and mappings write:
scalars, lists, and records with named fields in insertion order. A record is unnamed, carries a
type name only, or is bound to the descriptor of its type, whose name it then carries.
-/

namespace Remap

/-- What a record says about its type. -/
inductive Shape
  /-- No type. -/
  | unnamed
  /-- A type name without declarations. -/
  | named (name : String)
  /-- The declarations of a type; only declared fields are held. -/
  | typed (descriptor : TypeDescriptor)
  deriving DecidableEq, Repr, Inhabited

/-- A record whose fields hold `α`. -/
structure RecordOf (α : Type) where
  shape : Shape
  fields : List (String × α)

/-- A value. -/
inductive Value
  | null
  | boolean (b : Bool)
  | integer (n : Integer)
  | decimal (x : Float)
  | string (s : String)
  | list (items : List Value)
  | record (r : RecordOf Value)
  deriving Inhabited

/-- A record of values. -/
abbrev Record := RecordOf Value

/-- The type name, if the record carries one. -/
def Shape.name? : Shape → Option String
  | .unnamed => none
  | .named name => some name
  | .typed d => some d.name

namespace Value

/-- The word for the kind of a value. -/
def kind : Value → String
  | .null => "null"
  | .boolean _ => "boolean"
  | .integer _ => "integer"
  | .decimal _ => "decimal"
  | .string _ => "string"
  | .list _ => "list"
  | .record _ => "record"

/-- The key that converters from this value are looked up by. -/
def key : Value → TypeKey
  | .null => .null
  | .boolean _ => .boolean
  | .integer _ => .integer
  | .decimal _ => .decimal
  | .string _ => .string
  | .list _ => .list
  | .record r => .record r.shape.name?

/-- Is it the absent value? -/
def isNull : Value → Bool
  | .null => true
  | _ => false

theorem eq_null_of_isNull {v : Value} (null : v.isNull = true) : v = .null := by
  cases v with
  | null => rfl
  | _ => cases null

/-- Integers and decimals as a decimal. -/
def asDecimal? : Value → Option Float
  | .integer n => some (Number.ofInt n.val)
  | .decimal x => some x
  | _ => none

/-- A scalar as text; null, lists and records have none. -/
def asText? : Value → Option String
  | .string s => some s
  | .integer n => some n.text
  | .decimal x => some (Number.text x)
  | .boolean b => some (if b then "true" else "false")
  | .null | .list _ | .record _ => none

/-- The value that a record holds under a name. -/
def field? : Value → String → Option Value
  | .record r, name => Fields.get? r.fields name
  | _, _ => none

/-- What stands before the fields of a record. -/
def shapeText (shape : Shape) : String := shape.name?.getD ""

mutual
/-- The text of a value: scalars plain, lists in brackets, records in braces after their type
name. -/
def text : Value → String
  | .null => "null"
  | .boolean b => if b then "true" else "false"
  | .integer n => n.text
  | .decimal x => Number.text x
  | .string s => s
  | .list items => "[" ++ ", ".intercalate (texts items) ++ "]"
  | .record ⟨shape, fields⟩ =>
    shapeText shape ++ "\x7b" ++ ", ".intercalate (fieldTexts fields) ++ "\x7d"

/-- The texts of several values. -/
def texts : List Value → List String
  | [] => []
  | v :: rest => text v :: texts rest

/-- The texts of fields, each after its name. -/
def fieldTexts : List (String × Value) → List String
  | [] => []
  | (name, v) :: rest => (name ++ ": " ++ text v) :: fieldTexts rest
end

mutual
/-- Equality as guards see it: decimals compare as numbers, so not-a-number equals nothing, and
the fields of a record have to agree in order. -/
def same : Value → Value → Bool
  | .null, .null => true
  | .boolean a, .boolean b => a == b
  | .integer a, .integer b => a.val == b.val
  | .decimal a, .decimal b => a == b
  | .string a, .string b => a == b
  | .list as, .list bs => sameItems as bs
  | .record ⟨s, as⟩, .record ⟨t, bs⟩ => s == t && sameFields as bs
  | _, _ => false

/-- Equality of lists of values. -/
def sameItems : List Value → List Value → Bool
  | [], [] => true
  | a :: as, b :: bs => same a b && sameItems as bs
  | _, _ => false

/-- Equality of fields in order. -/
def sameFields : List (String × Value) → List (String × Value) → Bool
  | [], [] => true
  | (m, a) :: as, (n, b) :: bs => m == n && same a b && sameFields as bs
  | _, _ => false
end

end Value

/-- A field of this type holds the value as it is. Null fits everywhere, a record fits by its
type name. -/
def FieldType.accepts : FieldType → Value → Bool
  | _, .null => true
  | .any, _ => true
  | .boolean, .boolean _ => true
  | .integer, .integer _ => true
  | .decimal, .decimal _ => true
  | .string, .string _ => true
  | .list, .list _ => true
  | .record name, .record r => r.shape.name? == some name
  | _, _ => false

theorem FieldType.accepts_any (v : Value) : FieldType.any.accepts v = true := by
  cases v <;> rfl

theorem FieldType.accepts_null (t : FieldType) : t.accepts .null = true := by
  cases t <;> rfl

end Remap
