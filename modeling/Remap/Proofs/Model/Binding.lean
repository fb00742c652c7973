import Remap.Model.Registry
import Remap.Proofs.Fallible

/-!
# Binding field by field

A record is bound to a descriptor field by field, and a record in a field that is declared with a
registered type is bound to that type in the same way.

Main statements: what becomes of the content of one field, and an induction that follows fields down
into the records in them.
-/

namespace Remap

/-- What holds of no fields, and of some fields if it holds of the later ones and of the fields of a
record in the first one, holds of all fields. -/
theorem Fields.induction_on_records {motive : List (String × Value) → Prop} (nil : motive [])
    (cons : ∀ name v rest, (∀ inner, v = .record inner → motive inner.fields) → motive rest →
      motive ((name, v) :: rest)) :
    ∀ fields, motive fields
  | [] => nil
  | (name, v) :: rest =>
    cons name v rest (fun inner _ => induction_on_records nil cons inner.fields)
      (induction_on_records nil cons rest)
termination_by fields => sizeOf fields
decreasing_by
  · next here =>
    subst here
    obtain ⟨shape, fields⟩ := inner
    simp only [List.cons.sizeOf_spec, Prod.mk.sizeOf_spec, Value.record.sizeOf_spec,
      RecordOf.mk.sizeOf_spec]
    omega
  · simp only [List.cons.sizeOf_spec]
    omega

namespace TypeRegistry

variable {types : TypeRegistry} {d : TypeDescriptor} {t : FieldType}

theorem name_of_get? {name : String} (registered : types.get? name = some d) : d.name = name := by
  simpa using List.find?_some registered

/-- Only a record type is one to bind to, and it is registered under its name. -/
theorem get?_of_nestedType? (nested : types.nestedType? t = some d) :
    types.get? d.name = some d := by
  cases t with
  | record name =>
    rw [nestedType?] at nested
    rw [name_of_get? nested, nested]
  | _ => cases nested

/-- Fields are bound into a record that keeps its shape. -/
theorem shape_bindFields {fields : List (String × Value)} :
    ∀ {r bound : Record}, types.bindFields d r fields = .ok bound → bound.shape = r.shape := by
  induction fields with
  | nil =>
    intro r bound result
    rw [bindFields] at result
    cases result
    rfl
  | cons field rest ih =>
    obtain ⟨name, v⟩ := field
    intro r bound result
    rw [bindFields] at result
    split at result
    · cases result
    · obtain ⟨w, -, result⟩ := bind_eq_ok.mp result
      exact ih (r := r.put name w) result

/-- A record in a field of a registered type is bound to that type. -/
theorem bindSlot_of_nested (nested : types.nestedType? t = some d) (inner : Record) :
    types.bindSlot t (.record inner) =
      (types.bindFields d (.typed d) inner.fields >>= fun bound => pure (.record bound)) := by
  obtain ⟨shape, fields⟩ := inner
  rw [bindSlot, nested]

/-- What is no record, or is in a field of another type, stays as it is. -/
theorem bindSlot_of_unnested {v : Value}
    (unnested : ∀ inner, v = .record inner → types.nestedType? t = none) :
    types.bindSlot t v = .ok v := by
  cases v with
  | record inner =>
    obtain ⟨shape, fields⟩ := inner
    rw [bindSlot, unnested _ rfl]
  | _ => rfl

/-- The content of a field is a record to bind, or it stays. -/
theorem nested_cases (types : TypeRegistry) (t : FieldType) (v : Value) :
    (∃ inner d, v = .record inner ∧ types.nestedType? t = some d) ∨
      ∀ inner, v = .record inner → types.nestedType? t = none := by
  cases nested : types.nestedType? t with
  | none => exact .inr fun _ _ => rfl
  | some d =>
    cases v with
    | record inner => exact .inl ⟨inner, d, rfl, rfl⟩
    | _ => exact .inr fun inner here => by cases here

end TypeRegistry

end Remap
