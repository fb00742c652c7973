import Remap.Model.Record

/-!
# Well-typed values

A record that is bound to a descriptor says of each field what it takes. A value is well-typed if
in all records in it, at any depth, each field that is present holds something that its declared
type takes.
-/

namespace Remap

/-- Each field that is present holds what its declared type takes. -/
def Record.Fits (r : Record) : Prop :=
  ∀ field ∈ r.fields, (r.declaredType field.1).accepts field.2 = true

/-- All records in the value hold what their fields are declared with. -/
inductive Value.WellTyped : Value → Prop
  | null : WellTyped .null
  | boolean (b : Bool) : WellTyped (.boolean b)
  | integer (n : Integer) : WellTyped (.integer n)
  | decimal (x : Float) : WellTyped (.decimal x)
  | string (s : String) : WellTyped (.string s)
  | list (items : List Value) (each : ∀ v ∈ items, WellTyped v) : WellTyped (.list items)
  | record (r : RecordOf Value) (fits : Record.Fits r)
      (each : ∀ field ∈ r.fields, WellTyped field.2) : WellTyped (.record r)

namespace Value.WellTyped

variable {r : Record} {items : List Value}

theorem fits (typed : (Value.record r).WellTyped) : r.Fits := by
  cases typed with
  | record _ fits _ => exact fits

theorem each_field (typed : (Value.record r).WellTyped) :
    ∀ field ∈ r.fields, field.2.WellTyped := by
  cases typed with
  | record _ _ each => exact each

theorem each_item (typed : (Value.list items).WellTyped) : ∀ v ∈ items, v.WellTyped := by
  cases typed with
  | list _ each => exact each

theorem of_empty (empty : r.fields = []) : (Value.record r).WellTyped := by
  refine .record r ?_ ?_
  · intro field member
    rw [empty] at member
    cases member
  · intro field member
    rw [empty] at member
    cases member

end Value.WellTyped

end Remap
