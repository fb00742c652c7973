import Remap.Model.Value

/-!
# Records

What a record takes, shows and stores. Records without declarations take any field; a record
bound to a descriptor takes the declared fields only and lists all of them.
-/

namespace Remap

/-- Why a value does not fit a declared type. -/
inductive ModelError
  /-- The type declares no such field. -/
  | unknownField (type field : String)
  /-- No such type is registered. -/
  | unknownType (name : String)
  /-- The value is of another kind. -/
  | typeMismatch (expected found : String)
  deriving DecidableEq, Repr

/-- The sentence for a model error. -/
def ModelError.message : ModelError → String
  | .unknownField type field =>
    "Type '" ++ type ++ "' does not declare a field named '" ++ field ++ "'"
  | .unknownType name => "Unknown type: " ++ name
  | .typeMismatch expected found => "Type mismatch: expected " ++ expected ++ ", found " ++ found

namespace RecordOf

variable {α : Type}

/-- An empty record without a type. -/
def unnamed : RecordOf α := ⟨.unnamed, []⟩

/-- An empty record that carries a type name. -/
def named (name : String) : RecordOf α := ⟨.named name, []⟩

/-- An empty record bound to a descriptor. -/
def typed (d : TypeDescriptor) : RecordOf α := ⟨.typed d, []⟩

/-- The descriptor that the record is bound to. -/
def descriptor? (r : RecordOf α) : Option TypeDescriptor :=
  match r.shape with
  | .typed d => some d
  | _ => none

/-- The type name that the record carries. -/
def typeName? (r : RecordOf α) : Option String := r.shape.name?

/-- The record can hold a field of this name. -/
def accepts (r : RecordOf α) (name : String) : Bool :=
  match r.shape with
  | .typed d => (d.field? name).isSome
  | _ => true

/-- A mapping may write the field. -/
def isWritable (r : RecordOf α) (name : String) : Bool :=
  match r.shape with
  | .typed d => ((d.field? name).map (·.writable)).getD false
  | _ => true

/-- The declared type of a field, `any` where nothing is declared. -/
def declaredType (r : RecordOf α) (name : String) : FieldType :=
  match r.shape with
  | .typed d => ((d.field? name).map (·.type)).getD .any
  | _ => .any

/-- The field names the record shows: the declared ones in their order, or the present ones. -/
def fieldNames (r : RecordOf α) : List String :=
  match r.shape with
  | .typed d => d.fields.map (·.name)
  | _ => Fields.names r.fields

/-- What the record holds under a name. -/
def get? (r : RecordOf α) (name : String) : Option α := Fields.get? r.fields name

/-- The record holds the field. -/
def contains (r : RecordOf α) (name : String) : Bool := (r.get? name).isSome

/-- The record with a field stored, whether declared or not. -/
def put (r : RecordOf α) (name : String) (a : α) : RecordOf α :=
  { r with fields := Fields.put r.fields name a }

/-- The record with a field stored and what the field held before; fails when a bound record
does not declare the field. -/
def insert (r : RecordOf α) (name : String) (a : α) :
    Except ModelError (Option α × RecordOf α) :=
  if r.accepts name then .ok (r.get? name, r.put name a)
  else .error (.unknownField (r.typeName?.getD "") name)

/-- The record with a field stored, or as it was when it does not take the field. -/
def insertIfAccepted (r : RecordOf α) (name : String) (a : α) : RecordOf α :=
  if r.accepts name then r.put name a else r

/-- The record without a field. -/
def erase (r : RecordOf α) (name : String) : RecordOf α :=
  { r with fields := Fields.erase r.fields name }

/-- The record with a field that is present replaced, and whether it was. -/
def replace (r : RecordOf α) (name : String) (a : α) : Bool × RecordOf α :=
  if r.contains name then (true, r.put name a) else (false, r)

/-- The number of fields present. -/
def size (r : RecordOf α) : Nat := r.fields.length

@[simp] theorem shape_put (r : RecordOf α) (name : String) (a : α) :
    (r.put name a).shape = r.shape := rfl

@[simp] theorem accepts_put (r : RecordOf α) (name other : String) (a : α) :
    (r.put name a).accepts other = r.accepts other := rfl

@[simp] theorem isWritable_put (r : RecordOf α) (name other : String) (a : α) :
    (r.put name a).isWritable other = r.isWritable other := rfl

@[simp] theorem declaredType_put (r : RecordOf α) (name other : String) (a : α) :
    (r.put name a).declaredType other = r.declaredType other := rfl

@[simp] theorem typeName?_put (r : RecordOf α) (name : String) (a : α) :
    (r.put name a).typeName? = r.typeName? := rfl

@[simp] theorem get?_put_self (r : RecordOf α) (name : String) (a : α) :
    (r.put name a).get? name = some a :=
  Fields.get?_put_self r.fields name a

theorem get?_put_of_ne (r : RecordOf α) {name other : String} (a : α) (h : other ≠ name) :
    (r.put name a).get? other = r.get? other :=
  Fields.get?_put_of_ne r.fields a h

/-- Storing what a field holds already changes nothing. -/
theorem put_of_get?_eq_some {r : RecordOf α} {name : String} {a : α}
    (h : r.get? name = some a) : r.put name a = r := by
  show ({ r with fields := Fields.put r.fields name a } : RecordOf α) = r
  rw [Fields.put_of_get?_eq_some h]

/-- The second of two contents that are stored in a field stays. -/
theorem put_put (r : RecordOf α) (name : String) (a b : α) :
    (r.put name a).put name b = r.put name b := by
  show ({ r with fields := Fields.put (Fields.put r.fields name a) name b } : RecordOf α) = _
  rw [Fields.put_put]
  rfl

/-- A record takes what it shows: its shown fields are declared, or nothing is declared. -/
theorem accepts_of_shown {r : RecordOf α} {name : String} (shown : name ∈ r.fieldNames) :
    r.accepts name = true := by
  obtain ⟨shape, fields⟩ := r
  cases shape with
  | unnamed | named => rfl
  | typed d =>
    obtain ⟨f, member, rfl⟩ := List.mem_map.mp shown
    exact List.find?_isSome.mpr ⟨f, member, beq_self_eq_true f.name⟩

/-- A record without declarations takes every field, with any content. -/
theorem takes_of_open {r : RecordOf α} (free : r.descriptor? = none) (name : String) :
    r.accepts name = true ∧ r.isWritable name = true ∧ r.declaredType name = .any := by
  obtain ⟨shape, fields⟩ := r
  cases shape with
  | unnamed | named => exact ⟨rfl, rfl, rfl⟩
  | typed d => cases free

theorem fieldNames_of_open {r : RecordOf α} (free : r.descriptor? = none) :
    r.fieldNames = Fields.names r.fields := by
  obtain ⟨shape, fields⟩ := r
  cases shape with
  | unnamed | named => rfl
  | typed d => cases free

end RecordOf

/-- A record value of a declared record type that is not registered. -/
def Value.emptyNamed (name : String) : Value := .record (.named name)

/-- An empty record without a type, as a value. -/
def Value.emptyRecord : Value := .record .unnamed

end Remap
