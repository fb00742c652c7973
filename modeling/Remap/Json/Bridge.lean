import Remap.Json.Basic
import Remap.Model.Record

/-!
# Values and data documents

Objects become records without a type, whole numbers that fit become integers, all other numbers
decimals. The way back drops type names, sorts fields, and has null for decimals that are not
finite.
-/

namespace Remap

mutual
/-- The value that a document stands for. -/
def Value.ofJson : Json → Value
  | .null => .null
  | .boolean b => .boolean b
  | .integer n =>
    match Integer.ofInt? n with
    | some i => .integer i
    | none => .decimal (Number.ofInt n)
  | .float x => .decimal x
  | .string s => .string s
  | .array items => .list (Value.ofJsonItems items)
  | .object members => .record ⟨.unnamed, Value.ofJsonMembers members⟩

/-- The values of the items of an array. -/
def Value.ofJsonItems : List Json → List Value
  | [] => []
  | j :: rest => Value.ofJson j :: Value.ofJsonItems rest

/-- The fields of an object. -/
def Value.ofJsonMembers : List (String × Json) → List (String × Value)
  | [] => []
  | (name, j) :: rest => (name, Value.ofJson j) :: Value.ofJsonMembers rest
end

mutual
/-- The document of a value. -/
def Value.toJson : Value → Json
  | .null => .null
  | .boolean b => .boolean b
  | .integer n => .integer n.val
  | .decimal x => if x.isFinite then .float x else .null
  | .string s => .string s
  | .list items => .array (Value.toJsonItems items)
  | .record ⟨_, fields⟩ => .object (Json.sortMembers (Value.toJsonMembers fields))

/-- The documents of the items of a list. -/
def Value.toJsonItems : List Value → List Json
  | [] => []
  | v :: rest => Value.toJson v :: Value.toJsonItems rest

/-- The members of a record, in its own order. -/
def Value.toJsonMembers : List (String × Value) → List (String × Json)
  | [] => []
  | (name, v) :: rest => (name, Value.toJson v) :: Value.toJsonMembers rest
end

namespace Value

@[simp] theorem ofJsonItems_eq_map (items : List Json) : ofJsonItems items = items.map ofJson := by
  induction items with
  | nil => rfl
  | cons j rest ih => rw [ofJsonItems, ih, List.map_cons]

@[simp] theorem ofJsonMembers_eq_map (members : List (String × Json)) :
    ofJsonMembers members = members.map fun member => (member.1, ofJson member.2) := by
  induction members with
  | nil => rfl
  | cons member rest ih => rw [ofJsonMembers, ih, List.map_cons]

@[simp] theorem toJsonItems_eq_map (items : List Value) : toJsonItems items = items.map toJson := by
  induction items with
  | nil => rfl
  | cons v rest ih => rw [toJsonItems, ih, List.map_cons]

@[simp] theorem toJsonMembers_eq_map (fields : List (String × Value)) :
    toJsonMembers fields = fields.map fun field => (field.1, toJson field.2) := by
  induction fields with
  | nil => rfl
  | cons field rest ih => rw [toJsonMembers, ih, List.map_cons]

end Value

end Remap
