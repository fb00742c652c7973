import Remap.Path.Write

/-!
# Views

How a pass looks at its source and its target: which field names it offers for mapping by name,
and whether a path can be written. Records show their fields, other values show nothing.
-/

namespace Remap

/-- A view of values of one kind. -/
structure View where
  fieldNames : Value → List String
  isWritable : Value → Path → (instantiate : FieldType → Value) → Except EvalError Bool

namespace View

/-- The view of records. -/
def ofRecord : View where
  fieldNames
    | .record r => r.fieldNames
    | _ => []
  isWritable v path instantiate := path.isWritable instantiate v

/-- The view of values without fields. -/
def opaqueValue : View where
  fieldNames _ := []
  isWritable v path _ := .error (.propertyNotFound path.text v.kind)

/-- The view of a value by its kind. -/
def ofValue : Value → View
  | .record _ => ofRecord
  | _ => opaqueValue

end View

/-- Views by type name, made once and kept. -/
structure ViewCache where
  typeNames : List String := []
  deriving Repr

namespace ViewCache

/-- The view of a value, and the cache that keeps it. -/
def view (cache : ViewCache) (v : Value) : View × ViewCache :=
  match v with
  | .record r =>
    let name := r.typeName?.getD ""
    (.ofRecord, if cache.typeNames.contains name then cache else ⟨name :: cache.typeNames⟩)
  | _ => (.opaqueValue, cache)

/-- The number of views kept. -/
def size (cache : ViewCache) : Nat := cache.typeNames.length

end ViewCache

end Remap
