import Remap.Mapping.Coercion

/-!
# What holds of every converter

A registry in which nothing is remembered finds only what stands in its table. So what holds of
every converter that was added holds of every converter that is found, and a value is fitted by one
of these or by none.
-/

namespace Remap

namespace ConversionRegistry

variable {m : Type → Type} {P : TypedConverter m → Prop} {r : ConversionRegistry m}

/-- Nothing is remembered, and the property holds of every converter in the table. -/
structure Everywhere (P : TypedConverter m → Prop) (r : ConversionRegistry m) : Prop where
  fresh : r.remembered = []
  holds : ∀ pair converter, lookup r.table pair = some converter → P converter

namespace Everywhere

theorem empty : (ConversionRegistry.empty : ConversionRegistry m).Everywhere P :=
  ⟨rfl, fun _ _ entry => by cases entry⟩

theorem add (all : r.Everywhere P) (source target : TypeKey) {converter : TypedConverter m}
    (new : P converter) : (r.add source target converter).Everywhere P := by
  refine ⟨rfl, fun pair other entry => ?_⟩
  by_cases here : pair = (source, target)
  · rw [here, ConversionRegistry.add, lookup_store_self] at entry
    cases entry
    exact new
  · rw [ConversionRegistry.add, lookup_store_of_ne r.table converter here] at entry
    exact all.holds pair other entry

/-- The standard converters are functions on values. -/
theorem standard [Monad m] (plain : ∀ f, P (Standard.plain f)) :
    (ConversionRegistry.standard : ConversionRegistry m).Everywhere P :=
  empty
    |>.add .string .integer (plain Standard.textToInteger)
    |>.add .string .decimal (plain Standard.textToDecimal)
    |>.add .string .boolean (plain Standard.textToBoolean)
    |>.add .integer .decimal (plain Standard.numberToDecimal)
    |>.add .decimal .integer (plain Standard.decimalToInteger)
    |>.add .integer .string (plain Standard.scalarToText)
    |>.add .decimal .string (plain Standard.scalarToText)
    |>.add .boolean .string (plain Standard.scalarToText)

theorem of_find (all : r.Everywhere P) {source target : TypeKey} {converter : TypedConverter m}
    (found : (r.find source target).1 = some converter) : P converter := by
  obtain ⟨s, t, -, entry⟩ := lookup_of_find all.fresh found
  exact all.holds (s, t) converter entry

end Everywhere

end ConversionRegistry

/-! ## Fitting a value -/

variable {conversions : ConversionRegistry Scoped} {v : Value} {t : FieldType}

/-- A value that was fitted is accepted as it is, or it was bound to a registered type, or
converted. -/
theorem coerceWith_eq_ok {types : TypeRegistry} {w : Value} {scope scope' : Scope}
    (coerced : (coerceWith conversions types v t).run.run scope = (.ok w, scope')) :
    (t.accepts v = true ∧ w = v) ∨
      (∃ d, bindable? (conversions.find v.key t.key).1.isSome types v t = some d ∧
        types.bind d v = .ok w) ∨
      (conversions.convert v t).run.run scope = (.ok w, scope') := by
  unfold coerceWith at coerced
  split at coerced
  · next accepted =>
    cases coerced
    exact .inl ⟨accepted, rfl⟩
  · split at coerced
    · next d bindable =>
      cases bound : types.bind d v with
      | ok bound' =>
        rw [bound] at coerced
        cases coerced
        exact .inr (.inl ⟨d, bindable, bound⟩)
      | error e =>
        rw [bound] at coerced
        cases coerced
    · change ((conversions.convert v t).run >>= fun result => pure (result.mapError _)).run scope =
        (.ok w, scope') at coerced
      rw [Scoped.run_bind] at coerced
      cases converted : (conversions.convert v t).run.run scope with
      | mk result after =>
        rw [converted] at coerced
        cases result with
        | ok w' =>
          cases coerced
          exact .inr (.inr rfl)
        | error e => cases coerced

/-- A value that cannot be fitted to a declared type could not be converted to it. -/
theorem coerceWith_eq_error {types : TypeRegistry} {e : EvalError} {scope scope' : Scope}
    (failed : (coerceWith conversions types v t).run.run scope = (.error e, scope')) :
    ∃ found expected message, e = .conversion found expected message := by
  unfold coerceWith at failed
  split at failed
  · cases failed
  · split at failed
    · next d bindable =>
      cases bound : types.bind d v with
      | ok w =>
        rw [bound] at failed
        cases failed
      | error cause =>
        rw [bound] at failed
        cases failed
        exact ⟨_, _, _, rfl⟩
    · change ((conversions.convert v t).run >>= fun result => pure (result.mapError _)).run scope =
        (.error e, scope') at failed
      rw [Scoped.run_bind] at failed
      cases converted : (conversions.convert v t).run.run scope with
      | mk result after =>
        rw [converted] at failed
        cases result with
        | ok w => cases failed
        | error cause =>
          cases failed
          exact ⟨_, _, _, rfl⟩

/-- A value that a type does not accept is fitted by the converter that is found for it. -/
theorem coerceWith_of_find (types : TypeRegistry) {converter : TypedConverter Scoped}
    (refused : t.accepts v = false) (found : (conversions.find v.key t.key).1 = some converter) :
    (coerceWith conversions types v t).run =
      (fun result => result.mapError fun e => .conversion v.key.text t.text e.message) <$>
        (converter v t).run := by
  have unbound : bindable? true types v t = none := by
    unfold bindable?
    split
    · rfl
    · rfl
  simp only [coerceWith, refused, found, Option.isSome_some, unbound, ConversionRegistry.convert]
  rfl

/-- Where no converter is found, nothing but the value and the types is looked at. -/
theorem coerceWith_of_find_eq_none (types : TypeRegistry)
    (missing : (conversions.find v.key t.key).1 = none) :
    ∃ result, (coerceWith conversions types v t).run = pure result := by
  unfold coerceWith
  split
  · exact ⟨.ok v, rfl⟩
  · next refused =>
    split
    · split
      · exact ⟨.ok _, rfl⟩
      · exact ⟨.error _, rfl⟩
    · rw [ConversionRegistry.convert, if_neg refused, missing]
      exact ⟨.error _, rfl⟩

/-- A value is fitted without a converter, or by the one that is found for it. -/
theorem coerceWith_cases (conversions : ConversionRegistry Scoped) (types : TypeRegistry)
    (v : Value) (t : FieldType) :
    (∃ result, (coerceWith conversions types v t).run = pure result) ∨
      ∃ converter, (conversions.find v.key t.key).1 = some converter ∧
        (coerceWith conversions types v t).run =
          (fun result => result.mapError fun e => .conversion v.key.text t.text e.message) <$>
            (converter v t).run := by
  cases accepted : t.accepts v with
  | true => exact .inl ⟨.ok v, by rw [coerceWith_of_accepts accepted]; rfl⟩
  | false =>
    cases found : (conversions.find v.key t.key).1 with
    | none => exact .inl (coerceWith_of_find_eq_none types found)
    | some converter => exact .inr ⟨converter, rfl, coerceWith_of_find types accepted found⟩

end Remap
