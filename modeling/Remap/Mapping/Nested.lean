import Remap.Convert.Registry
import Remap.Mapping.Result
import Remap.Mapping.Scope

/-!
# Nested mappers

A mapper inside another one, seen from outside: it takes a source and a target and returns its
verdict with the target as it left it. It also serves as a converter, which starts from a fresh
target.
-/

namespace Remap

/-- A mapper inside another one. The target may have changed even if it fails. The tag tells two
nested mappers apart. -/
structure NestedMapper where
  tag : Nat
  /-- The kinds it maps from and to, if it knows them. -/
  keys? : Option (TypeKey × TypeKey)
  run : (source target : Value) → Scoped (Except MappingError Unit × Value)

namespace NestedMapper

/-- A nested mapper as a converter: it maps onto a target made for the value. Null stays null. -/
def toConverter (mapper : NestedMapper) (targetFor : Value → FieldType → Value) :
    TypedConverter Scoped := fun v t =>
  if v.isNull then pure .null
  else
    ExceptT.mk do
      let (verdict, created) ← mapper.run v (targetFor v t)
      match verdict with
      | .ok () => return .ok created
      | .error e => return .error (.failed v.key.text t.text e.message)

/-- A value that is not null goes through the mapper. -/
theorem run_toConverter (mapper : NestedMapper) (targetFor : Value → FieldType → Value) {v : Value}
    (present : v.isNull = false) (t : FieldType) (scope : Scope) :
    (mapper.toConverter targetFor v t).run.run scope =
      let ran := (mapper.run v (targetFor v t)).run scope
      (match ran.1.1 with
        | .ok () => .ok ran.1.2
        | .error e => .error (.failed v.key.text t.text e.message), ran.2) := by
  simp only [toConverter, present, Bool.false_eq_true, if_false, ExceptT.run_mk]
  rw [Scoped.run_bind]
  cases (mapper.run v (targetFor v t)).run scope with
  | mk left after =>
    obtain ⟨verdict, created⟩ := left
    cases verdict <;> rfl

end NestedMapper

end Remap
