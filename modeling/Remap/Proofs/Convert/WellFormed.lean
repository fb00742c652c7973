import Remap.Proofs.Convert.Everywhere
import Remap.Proofs.Convert.Standard
import Remap.Proofs.Path.WellFormed

/-!
# Conversions give well-formed values

Transforms and standard converters give scalars, or the value that they got. Values are bound to
registered types field by field. So a coercer whose converters are sound is sound.
-/

namespace Remap

/-! ## Transforms -/

namespace Transform

variable {v w : Value}

theorem wellFormed_of_onText {verb : String} {f : String → String}
    (applied : onText verb f v = .ok w) : w.WellFormed := by
  unfold onText at applied
  split at applied
  · cases applied
    exact .null
  · split at applied
    · cases applied
      exact .string _
    · cases applied

theorem wellFormed_of_formatNumber {decimals : Nat} {separator : Option String}
    (applied : formatNumber decimals separator v = .ok w) : w.WellFormed := by
  unfold formatNumber at applied
  split at applied
  · cases applied
    exact .null
  · split at applied
    · cases applied
    · obtain ⟨x, -, applied⟩ := bind_eq_ok.mp applied
      cases applied
      exact .string _

theorem wellFormed_of_splitValue {delimiter : String} {index : Nat}
    (applied : splitValue delimiter index v = .ok w) : w.WellFormed := by
  unfold splitValue at applied
  split at applied
  · cases applied
    exact .null
  · split at applied
    · cases applied
    · dsimp only at applied
      split at applied
      · cases applied
        exact .string _
      · cases applied

theorem wellFormed_concatenateValue (separator : String) (v : Value) :
    (concatenateValue separator v).WellFormed := by
  cases v with
  | null => exact .null
  | _ => exact .string _

mutual

/-- A transform of a well-formed value is well-formed. -/
theorem wellFormed_of_apply :
    ∀ {t : Transform} {v w : Value}, v.WellFormed → t.apply v = .ok w → w.WellFormed
  | .uppercase, _, _, _, applied => wellFormed_of_onText applied
  | .lowercase, _, _, _, applied => wellFormed_of_onText applied
  | .trim, _, _, _, applied => wellFormed_of_onText applied
  | .defaultTo value, v, w, formed, applied => by
    cases v with
    | null | string =>
      cases applied
      exact .string _
    | _ =>
      cases applied
      exact formed
  | .numberFormat _ _, _, _, _, applied => wellFormed_of_formatNumber applied
  | .split _ _, _, _, _, applied => wellFormed_of_splitValue applied
  | .concatenate separator, v, w, _, applied => by
    rw [apply] at applied
    cases applied
    exact wellFormed_concatenateValue (separator.getD "") v
  | .chain transforms, _, _, formed, applied => by
    rw [apply] at applied
    exact wellFormed_of_applyAll formed applied

theorem wellFormed_of_applyAll :
    ∀ {transforms : List Transform} {v w : Value}, v.WellFormed →
      applyAll transforms v = .ok w → w.WellFormed
  | [], _, _, formed, applied => by
    rw [applyAll] at applied
    cases applied
    exact formed
  | t :: rest, _, _, formed, applied => by
    rw [applyAll] at applied
    obtain ⟨between, first, more⟩ := bind_eq_ok.mp applied
    exact wellFormed_of_applyAll (wellFormed_of_apply formed first) more

end

end Transform

/-! ## Converters -/

/-- The converter makes well-formed values of well-formed ones. -/
def TypedConverter.Sound (converter : TypedConverter Scoped) : Prop :=
  ∀ v t scope w scope', v.WellFormed → (converter v t).run.run scope = (.ok w, scope') →
    w.WellFormed

/-- A function whose results a scalar type accepts is a sound converter. -/
theorem Standard.plain_sound {f : Value → Except ConversionError Value} {t : FieldType}
    (scalar : t.isScalar = true) (fits : ∀ {v w}, f v = .ok w → t.accepts w = true) :
    (plain f : TypedConverter Scoped).Sound := by
  intro v _ scope w scope' _ ran
  exact .of_accepts scalar (fits (congrArg Prod.fst ran))

namespace ConversionRegistry

variable {r : ConversionRegistry Scoped}

/-- The standard converters are sound. -/
theorem sound_standard :
    (ConversionRegistry.standard : ConversionRegistry Scoped).Everywhere TypedConverter.Sound :=
  Everywhere.empty
    |>.add .string .integer (Standard.plain_sound rfl Standard.textToInteger_accepts)
    |>.add .string .decimal (Standard.plain_sound rfl Standard.textToDecimal_accepts)
    |>.add .string .boolean (Standard.plain_sound rfl Standard.textToBoolean_accepts)
    |>.add .integer .decimal (Standard.plain_sound rfl Standard.numberToDecimal_accepts)
    |>.add .decimal .integer (Standard.plain_sound rfl Standard.decimalToInteger_accepts)
    |>.add .integer .string (Standard.plain_sound rfl Standard.scalarToText_accepts)
    |>.add .decimal .string (Standard.plain_sound rfl Standard.scalarToText_accepts)
    |>.add .boolean .string (Standard.plain_sound rfl Standard.scalarToText_accepts)

/-- A value that is accepted stays as it is, and any other one goes through a sound converter. -/
theorem Everywhere.wellFormed_of_convert (sound : r.Everywhere TypedConverter.Sound) {v w : Value}
    {t : FieldType} {scope scope' : Scope} (formed : v.WellFormed)
    (converted : (r.convert v t).run.run scope = (.ok w, scope')) : w.WellFormed := by
  unfold convert at converted
  split at converted
  · cases converted
    exact formed
  · cases found : (r.find v.key t.key).1 with
    | some converter =>
      rw [found] at converted
      exact sound.of_find found v t scope w scope' formed converted
    | none =>
      rw [found] at converted
      cases converted

end ConversionRegistry

/-! ## Coercers -/

theorem wellFormed_of_coerceWith {conversions : ConversionRegistry Scoped}
    (sound : conversions.Everywhere TypedConverter.Sound) {types : TypeRegistry} {v w : Value}
    {t : FieldType} {scope scope' : Scope} (formed : v.WellFormed)
    (coerced : (coerceWith conversions types v t).run.run scope = (.ok w, scope')) :
    w.WellFormed := by
  rcases coerceWith_eq_ok coerced with ⟨-, same⟩ | ⟨d, -, bound⟩ | converted
  · rw [same]
    exact formed
  · exact TypeRegistry.wellFormed_of_bind formed bound
  · exact sound.wellFormed_of_convert formed converted

/-- Two registries fit well-formed values to well-formed ones if the converters do. -/
theorem Coercer.sound_ofRegistries {conversions : ConversionRegistry Scoped}
    (sound : conversions.Everywhere TypedConverter.Sound) (types : TypeRegistry) :
    (Coercer.ofRegistries conversions types).Sound where
  coerce _ _ _ _ _ formed coerced := wellFormed_of_coerceWith sound formed coerced
  instantiate := types.wellFormed_emptyFor

end Remap
