import Mathlib.Data.List.Forall2
import Remap.Model.Record

/-!
# Values up to the order of fields

Fields stand in the order in which they were stored first, so contents that are stored in another
order make another record. `Reordered` is equality of values that does not look at this order, in
whatever record at whatever depth.

Main statements: one field may be stored with either of two contents that are equal in this sense,
and two fields may be stored in either order.
-/

namespace Remap.Value

mutual

/-- The values are equal but for the order of fields in records. -/
inductive Reordered : Value → Value → Prop
  | refl (v : Value) : Reordered v v
  | list {items others : List Value} (each : List.Forall₂ Reordered items others) :
      Reordered (.list items) (.list others)
  | record (shape : Shape) {fields others : List (String × Value)}
      (each : ReorderedFields fields others) :
      Reordered (.record ⟨shape, fields⟩) (.record ⟨shape, others⟩)

/-- The fields have the same names in some order, with contents that are equal but for the order of
fields in them. -/
inductive ReorderedFields : List (String × Value) → List (String × Value) → Prop
  | nil : ReorderedFields [] []
  | cons (name : String) {v w : Value} {fields others : List (String × Value)}
      (content : Reordered v w) (rest : ReorderedFields fields others) :
      ReorderedFields ((name, v) :: fields) ((name, w) :: others)
  | swap (field other : String × Value) (rest : List (String × Value)) :
      ReorderedFields (field :: other :: rest) (other :: field :: rest)
  | trans {fields between others : List (String × Value)}
      (first : ReorderedFields fields between) (second : ReorderedFields between others) :
      ReorderedFields fields others

end

namespace ReorderedFields

variable {v w : Value} {name other : String}

theorem refl (fields : List (String × Value)) : ReorderedFields fields fields := by
  induction fields with
  | nil => exact .nil
  | cons field rest ih => exact .cons field.1 (.refl field.2) ih

/-- A field is stored with either of two contents. -/
theorem put (fields : List (String × Value)) (name : String) (same : Reordered v w) :
    ReorderedFields (Fields.put fields name v) (Fields.put fields name w) := by
  induction fields with
  | nil => exact .cons name same .nil
  | cons field rest ih =>
    obtain ⟨n, u⟩ := field
    simp only [Fields.put]
    split
    · exact .cons n same (refl rest)
    · exact .cons n (.refl u) ih

/-- Two fields are stored in either order, which shows only if neither of them was there. -/
theorem put_comm (fields : List (String × Value)) (different : name ≠ other) (v w : Value) :
    ReorderedFields (Fields.put (Fields.put fields name v) other w)
      (Fields.put (Fields.put fields other w) name v) := by
  induction fields with
  | nil =>
    simp only [Fields.put, different, different.symm, if_false]
    exact .swap (name, v) (other, w) []
  | cons field rest ih =>
    obtain ⟨n, u⟩ := field
    by_cases here : n = name
    · subst here
      simp only [Fields.put, different, if_true, if_false]
      exact refl _
    · by_cases there : n = other
      · subst there
        simp only [Fields.put, here, if_true, if_false]
        exact refl _
      · simp only [Fields.put, here, there, if_false]
        exact .cons n (.refl u) ih

end ReorderedFields

end Remap.Value
