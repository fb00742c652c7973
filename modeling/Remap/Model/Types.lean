/-!
# Declared types

The types a field can be declared with, the keys that converters are looked up by, and the
descriptors that list the fields of a named record type.
-/

namespace Remap

/-- The declared type of a record field. -/
inductive FieldType
  /-- Takes every value. -/
  | any
  | boolean
  | integer
  | decimal
  | string
  | list
  /-- A record of the named type. -/
  | record (name : String)
  deriving DecidableEq, Repr, Inhabited

/-- What converters are looked up by: a kind of value. `record none` is any record, `any` is any
value. -/
inductive TypeKey
  | any
  | null
  | boolean
  | integer
  | decimal
  | string
  | list
  | record (name : Option String)
  deriving DecidableEq, Repr, Inhabited

/-- The text of a key; a named record shows its name in angle brackets. -/
def TypeKey.text : TypeKey → String
  | .any => "any"
  | .null => "null"
  | .boolean => "boolean"
  | .integer => "integer"
  | .decimal => "decimal"
  | .string => "string"
  | .list => "list"
  | .record (some name) => "record<" ++ name ++ ">"
  | .record none => "record"

namespace FieldType

/-- The key of a declared type. -/
def key : FieldType → TypeKey
  | .any => .any
  | .boolean => .boolean
  | .integer => .integer
  | .decimal => .decimal
  | .string => .string
  | .list => .list
  | .record name => .record (some name)

/-- The text of a declared type is that of its key. -/
def text (t : FieldType) : String := t.key.text

end FieldType

/-- A declared field: its name, its type, and whether a mapping may write it. -/
structure FieldDescriptor where
  name : String
  type : FieldType
  writable : Bool := true
  deriving DecidableEq, Repr, Inhabited

/-- The declared fields of a named record type. -/
structure TypeDescriptor where
  name : String
  fields : List FieldDescriptor
  deriving DecidableEq, Repr, Inhabited

namespace TypeDescriptor

/-- The declaration of a field. -/
def field? (d : TypeDescriptor) (name : String) : Option FieldDescriptor :=
  d.fields.find? (·.name == name)

/-- Declarations with one more; a name declared before is replaced where it stands. -/
def putField : List FieldDescriptor → FieldDescriptor → List FieldDescriptor
  | [], f => [f]
  | g :: rest, f => if g.name = f.name then f :: rest else g :: putField rest f

/-- The descriptor with one more declared field. -/
def declare (d : TypeDescriptor) (f : FieldDescriptor) : TypeDescriptor :=
  { d with fields := putField d.fields f }

/-- A descriptor that declares the fields one after the other. -/
def ofFields (name : String) (fields : List FieldDescriptor) : TypeDescriptor :=
  fields.foldl declare ⟨name, []⟩

end TypeDescriptor

end Remap
