import Remap.Model.Record

/-!
# The registry of record types

Named descriptors, and binding a value to one of them. Binding goes through records whose field
is declared as a record of a registered type; all other values stay as they are.
-/

namespace Remap

/-- The registered descriptors, at most one for each name. -/
structure TypeRegistry where
  types : List TypeDescriptor
  deriving DecidableEq, Repr, Inhabited

namespace TypeRegistry

/-- No types. -/
def empty : TypeRegistry := ⟨[]⟩

/-- Descriptors with one more; one of the same name is replaced where it stands. -/
def putType : List TypeDescriptor → TypeDescriptor → List TypeDescriptor
  | [], d => [d]
  | e :: rest, d => if e.name = d.name then d :: rest else e :: putType rest d

/-- The registry with a descriptor; the last one registered under a name counts. -/
def register (types : TypeRegistry) (d : TypeDescriptor) : TypeRegistry :=
  ⟨putType types.types d⟩

/-- The descriptor registered under a name. -/
def get? (types : TypeRegistry) (name : String) : Option TypeDescriptor :=
  types.types.find? (·.name == name)

/-- A descriptor is registered under the name. -/
def contains (types : TypeRegistry) (name : String) : Bool := (types.get? name).isSome

/-- The registered names in ascending order. -/
def names (types : TypeRegistry) : List String :=
  (types.types.map (·.name)).mergeSort (fun a b => decide (a ≤ b))

/-- The number of registered types. -/
def size (types : TypeRegistry) : Nat := types.types.length

/-- An empty record bound to a registered type. -/
def newRecord (types : TypeRegistry) (name : String) : Except ModelError Value :=
  match types.get? name with
  | none => .error (.unknownType name)
  | some d => .ok (.record (.typed d))

/-- A value of a record type that is registered is bound to it; others stay. -/
def nestedType? (types : TypeRegistry) : FieldType → Option TypeDescriptor
  | .record name => types.get? name
  | _ => none

mutual
/-- The fields stored one after the other into a record bound to the descriptor; each has to be
declared, and a record of a registered declared type is bound to that type first. -/
def bindFields (types : TypeRegistry) (d : TypeDescriptor) (r : Record) :
    List (String × Value) → Except ModelError Record
  | [] => .ok r
  | (name, v) :: rest =>
    match d.field? name with
    | none => .error (.unknownField d.name name)
    | some declared => do
      let w ← bindSlot types declared.type v
      bindFields types d (r.put name w) rest

/-- The content of a declared field: a record of a registered declared type is bound to it. -/
def bindSlot (types : TypeRegistry) (t : FieldType) : Value → Except ModelError Value
  | .record ⟨shape, fields⟩ =>
    match types.nestedType? t with
    | some d => do
      let bound ← bindFields types d (.typed d) fields
      return .record bound
    | none => .ok (.record ⟨shape, fields⟩)
  | other => .ok other
end

/-- A value bound to a descriptor: null stays null, a record gets the descriptor, anything else
is a mismatch. -/
def bind (types : TypeRegistry) (d : TypeDescriptor) : Value → Except ModelError Value
  | .null => .ok .null
  | .record r => do
    let bound ← types.bindFields d (.typed d) r.fields
    return .record bound
  | other => .error (.typeMismatch ("record<" ++ d.name ++ ">") other.kind)

/-- A value bound to the type registered under a name. -/
def instantiate (types : TypeRegistry) (name : String) (v : Value) : Except ModelError Value :=
  match types.get? name with
  | none => .error (.unknownType name)
  | some d => types.bind d v

end TypeRegistry

end Remap
