import Remap.Model.Record

/-!
# Values rebuilt

`Value.rebuild` goes through a value and replaces its decimals and its records, what is inside a
record first. Two values agree but for what their records say about types if they are equal with all
types taken away (`Value.untyped`).
-/

namespace Remap.Value

/-- No record in the value, at any depth, holds a name twice. -/
inductive DistinctNames : Value → Prop
  | null : DistinctNames .null
  | boolean (b : Bool) : DistinctNames (.boolean b)
  | integer (n : Integer) : DistinctNames (.integer n)
  | decimal (x : Float) : DistinctNames (.decimal x)
  | string (s : String) : DistinctNames (.string s)
  | list (items : List Value) (each : ∀ v ∈ items, DistinctNames v) : DistinctNames (.list items)
  | record (r : RecordOf Value) (distinct : Fields.Distinct r.fields)
      (each : ∀ field ∈ r.fields, DistinctNames field.2) : DistinctNames (.record r)

namespace DistinctNames

variable {r : Record}

theorem once (distinct : (Value.record r).DistinctNames) : Fields.Distinct r.fields := by
  cases distinct with
  | record _ once _ => exact once

theorem each_field (distinct : (Value.record r).DistinctNames) :
    ∀ field ∈ r.fields, field.2.DistinctNames := by
  cases distinct with
  | record _ _ each => exact each

end DistinctNames

mutual
/-- The value with its decimals and its records replaced. A record is replaced when its contents
are. -/
def rebuild (decimal : Float → Value) (record : Record → Record) : Value → Value
  | .null => .null
  | .boolean b => .boolean b
  | .integer n => .integer n
  | .decimal x => decimal x
  | .string s => .string s
  | .list items => .list (rebuildItems decimal record items)
  | .record ⟨shape, fields⟩ => .record (record ⟨shape, rebuildFields decimal record fields⟩)

/-- The items of a list rebuilt. -/
def rebuildItems (decimal : Float → Value) (record : Record → Record) : List Value → List Value
  | [] => []
  | v :: rest => rebuild decimal record v :: rebuildItems decimal record rest

/-- The contents of a record rebuilt. -/
def rebuildFields (decimal : Float → Value) (record : Record → Record) :
    List (String × Value) → List (String × Value)
  | [] => []
  | (name, v) :: rest => (name, rebuild decimal record v) :: rebuildFields decimal record rest
end

variable {decimal : Float → Value} {record : Record → Record}

@[simp] theorem rebuildItems_eq_map (items : List Value) :
    rebuildItems decimal record items = items.map (rebuild decimal record) := by
  induction items with
  | nil => rfl
  | cons v rest ih => rw [rebuildItems, ih, List.map_cons]

@[simp] theorem rebuildFields_eq_map (fields : List (String × Value)) :
    rebuildFields decimal record fields =
      fields.map fun field => (field.1, rebuild decimal record field.2) := by
  induction fields with
  | nil => rfl
  | cons field rest ih => rw [rebuildFields, ih, List.map_cons]

theorem rebuild_list (items : List Value) :
    rebuild decimal record (.list items) = .list (items.map (rebuild decimal record)) := by
  rw [rebuild, rebuildItems_eq_map]

theorem rebuild_record (r : Record) :
    rebuild decimal record (.record r) = .record (record
      ⟨r.shape, r.fields.map fun field => (field.1, rebuild decimal record field.2)⟩) := by
  obtain ⟨shape, fields⟩ := r
  rw [rebuild, rebuildFields_eq_map]

/-- The value with type names and descriptors taken from all its records. -/
def untyped (v : Value) : Value := v.rebuild .decimal fun r => ⟨.unnamed, r.fields⟩

end Remap.Value
