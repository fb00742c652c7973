import Remap.Convert.Standard
import Remap.Mapping.Scope
import Remap.Model.Registry
import Remap.Path.Write

/-!
# Fitting values to their place

Values are converted by a registry of converters. Where it has none, a record without
declarations is bound to a registered record type. Missing records are created from the
registered types.
-/

namespace Remap

/-- An empty record of a declared type: bound to its descriptor if the type is registered. -/
def TypeRegistry.emptyFor (types : TypeRegistry) : FieldType → Value
  | .record name =>
    match types.get? name with
    | some d => .record (.typed d)
    | none => .emptyNamed name
  | _ => .emptyRecord

/-- The registered type that a value can be bound to: the value is a record without declarations,
and no converter takes it to the declared record type. -/
def bindable? (found : Bool) (types : TypeRegistry) (v : Value) (t : FieldType) :
    Option TypeDescriptor :=
  match t, v with
  | .record name, .record r =>
    if found || r.descriptor?.isSome then none else types.get? name
  | _, _ => none

variable {m : Type → Type} [Monad m]

/-- A value fitted to a declared type by the registries. -/
def coerceWith (conversions : ConversionRegistry m) (types : TypeRegistry) (v : Value)
    (t : FieldType) : ExceptT EvalError m Value :=
  if t.accepts v then pure v
  else
    match bindable? (conversions.find v.key t.key).1.isSome types v t with
    | some d =>
      match types.bind d v with
      | .ok w => pure w
      | .error e => throw (.conversion v.key.text t.text e.message)
    | none =>
      ExceptT.mk do
        let result ← (conversions.convert v t).run
        return result.mapError fun e => .conversion v.key.text t.text e.message

/-- A value that its declared type accepts stays as it is. -/
theorem coerceWith_of_accepts {conversions : ConversionRegistry m} {types : TypeRegistry}
    {v : Value} {t : FieldType} (accepted : t.accepts v = true) :
    coerceWith conversions types v t = pure v := by
  simp [coerceWith, accepted]

/-- The coercer of two registries. -/
def Coercer.ofRegistries (conversions : ConversionRegistry m) (types : TypeRegistry) :
    Coercer m where
  coerce := coerceWith conversions types
  instantiate := types.emptyFor

end Remap
