import Remap.Mapping.Mapper
import Remap.Proofs.Path.Frame
import Remap.Regex.Reader

/-!
# What an entry does to the target

`Effect` lists everything that running an entry can come to. Only a stored value and a nested
mapper change the target; an entry that is skipped, or fails by itself, leaves it as it was.
-/

namespace Remap

namespace Action

/-- The path that an action writes to by itself, if it writes to one. -/
def path? : Action → Option Path
  | .field _ target _ => some target
  | .assembled _ target _ => some target
  | .fanOut .. => none
  | .whole .. => none

/-- The nested mapper that an action hands the target to, if it does. -/
def mapper? : Action → Option NestedMapper
  | .fanOut _ mapper => some mapper
  | .whole _ mapper => some mapper
  | .field .. => none
  | .assembled .. => none

/-- No action writes to a path and hands the target to a mapper. -/
theorem mapper?_ne_some {a : Action} {path : Path} (writes : a.path? = some path)
    (mapper : NestedMapper) : a.mapper? ≠ some mapper := by
  intro hands
  cases a with
  | field | assembled => cases hands
  | fanOut | whole => cases writes

end Action

namespace Pass

/-- What a nested mapper's verdict is reported as; `v` is the value of a success. -/
def nestedReport (v : Value) : Except MappingError Unit → Except FailureCause (Option Value)
  | .ok () => .ok (some v)
  | .error e => .error (.nested e)

variable [Regex.Engine]

/-- What running an entry comes to, with the target after it. -/
inductive Effect (pass : Pass) (e : Entry) (target : Value) (scope : Scope) :
    Except FailureCause (Option Value) → Value → Prop
  /-- The guard does not hold. -/
  | guarded (refused : pass.applies target e.condition = .ok false) :
      Effect pass e target scope (.ok none) target
  /-- There is nothing to fan out. -/
  | nothing (source : Expression) (mapper : NestedMapper) (fans : e.action = .fanOut source mapper)
      (null : pass.read source = .ok .null) : Effect pass e target scope (.ok none) target
  /-- The guard, the source, the converter or the write fails. -/
  | failed (cause : FailureCause) : Effect pass e target scope (.error cause) target
  /-- A value is fitted to a place of the target and stored there. -/
  | stored (path : Path) (v w : Value) (place : Path.Place) (scope' : Scope)
      (writes : e.action.path? = some path)
      (lands : Path.Lands pass.coercer.instantiate path.segments target place)
      (fitted : (pass.coercer.coerce v place.declared).run.run scope = (.ok w, scope')) :
      Effect pass e target scope (.ok (some v)) (place.store w)
  /-- A nested mapper leaves the target as it pleases. -/
  | nested (mapper : NestedMapper) (source v after : Value) (verdict : Except MappingError Unit)
      (scope' : Scope) (hands : e.action.mapper? = some mapper)
      (ran : (mapper.run source target).run scope = ((verdict, after), scope')) :
      Effect pass e target scope (nestedReport v verdict) after

variable {pass : Pass} {e : Entry} {target : Value} {scope : Scope}

/-- A write stores the fitted value at its place, or it fails and leaves the target. -/
theorem write_effect {path : Path} (writes : e.action.path? = some path) (v : Value) :
    Effect pass e target scope ((pass.write path v target).run scope).1.1
      ((pass.write path v target).run scope).1.2 := by
  rcases Path.writeInto_cases path pass.coercer target v with
    ⟨error, refused⟩ | ⟨place, lands, landed⟩
  · rw [write, refused]
    exact .failed _
  · rw [write, landed, Path.storeFitted, Scoped.run_bind, Scoped.run_bind]
    cases fitting : (pass.coercer.coerce v place.declared).run.run scope with
    | mk result scope' =>
      cases result with
      | error error => exact .failed _
      | ok w => exact .stored path v w place scope' writes lands fitting

theorem convertAndWrite_effect {path : Path} (writes : e.action.path? = some path)
    (converter : Option Converter) (v : Value) :
    Effect pass e target scope ((pass.convertAndWrite converter path v target).run scope).1.1
      ((pass.convertAndWrite converter path v target).run scope).1.2 := by
  cases converter with
  | none => exact write_effect writes v
  | some c =>
    simp only [convertAndWrite]
    cases c.apply v with
    | error error => exact .failed _
    | ok w => exact write_effect writes w

theorem runNested_effect {mapper : NestedMapper} (hands : e.action.mapper? = some mapper)
    (source v : Value) :
    Effect pass e target scope ((runNested mapper source v target).run scope).1.1
      ((runNested mapper source v target).run scope).1.2 := by
  unfold runNested
  rw [Scoped.run_bind]
  cases ran : (mapper.run source target).run scope with
  | mk left scope' =>
    obtain ⟨verdict, after⟩ := left
    have nested : Effect pass e target scope (nestedReport v verdict) after :=
      .nested mapper source v after verdict scope' hands ran
    cases verdict with
    | ok _ => exact nested
    | error error => exact nested

theorem apply_effect :
    Effect pass e target scope ((pass.apply target e.action).run scope).1.1
      ((pass.apply target e.action).run scope).1.2 := by
  cases action : e.action with
  | field source path converter =>
    simp only [apply]
    cases pass.read source with
    | error error => exact .failed _
    | ok v => exact convertAndWrite_effect (by rw [action]; rfl) converter v
  | fanOut source mapper =>
    simp only [apply]
    cases read : pass.read source with
    | error error => exact .failed _
    | ok v =>
      cases null : v.isNull with
      | true =>
        have nothing : v = .null := Value.eq_null_of_isNull null
        simp only [null, if_true]
        exact .nothing source mapper action (nothing ▸ read)
      | false =>
        simp only [null, Bool.false_eq_true, if_false]
        exact runNested_effect (by rw [action]; rfl) v v
  | whole claimed mapper => exact runNested_effect (by rw [action]; rfl) pass.source .null
  | assembled sources path assembler =>
    simp only [apply]
    cases pass.gather sources with
    | error error => exact .failed _
    | ok parts => exact convertAndWrite_effect (by rw [action]; rfl) (some assembler) (.record parts)

/-- The result of an entry reports the effect it had. -/
theorem runEntry_effect (pass : Pass) (auto : Bool) (e : Entry) (target : Value) (scope : Scope) :
    ∃ applied,
      Effect pass e target scope applied ((pass.runEntry auto e target).run scope).1.2 ∧
        ((pass.runEntry auto e target).run scope).1.1 =
          ⟨e.sourceLabel, e.targetLabel, auto, outcome (severity auto) applied⟩ := by
  unfold runEntry outcomeOf
  cases verdict : pass.applies target e.condition with
  | error error => exact ⟨.error (.condition error), .failed _, rfl⟩
  | ok holds =>
    cases holds with
    | false => exact ⟨.ok none, .guarded verdict, rfl⟩
    | true => exact ⟨_, apply_effect, rfl⟩

/-- An entry that is skipped, or fails on its guard or its source, leaves the target as it was; it
is skipped only if the guard does not hold or there is nothing to fan out. An entry that writes to
a path by itself leaves the target as it was whenever it fails. -/
theorem runEntry_keeps_target (pass : Pass) (auto : Bool) (e : Entry) (target : Value)
    (scope : Scope) :
    let result := ((pass.runEntry auto e target).run scope).1.1
    let after := ((pass.runEntry auto e target).run scope).1.2
    (result.isSkipped = true →
        after = target ∧ (pass.applies target e.condition = .ok false ∨
          ∃ source mapper, e.action = .fanOut source mapper ∧ pass.read source = .ok .null)) ∧
      (∀ error weight, result.outcome = .failure (.condition error) weight ∨
        result.outcome = .failure (.read error) weight → after = target) ∧
      (e.action.path?.isSome = true → result.isFailure = true → after = target) := by
  obtain ⟨applied, effect, report⟩ := runEntry_effect pass auto e target scope
  simp only [report]
  generalize ((pass.runEntry auto e target).run scope).1.2 = after at effect ⊢
  refine ⟨?_, ?_, ?_⟩
  · intro skipped
    cases effect with
    | guarded refused => exact ⟨rfl, .inl refused⟩
    | nothing source mapper fans null => exact ⟨rfl, .inr ⟨source, mapper, fans, null⟩⟩
    | failed | stored => cases skipped
    | nested mapper source v after verdict scope' hands ran => cases verdict <;> cases skipped
  · intro error weight failure
    cases effect with
    | guarded | nothing | failed => rfl
    | stored => rcases failure with failure | failure <;> cases failure
    | nested mapper source v after verdict scope' hands ran =>
      cases verdict <;> rcases failure with failure | failure <;> cases failure
  · intro writes failure
    cases effect with
    | guarded | nothing | failed => rfl
    | stored => cases failure
    | nested mapper source v after verdict scope' hands ran =>
      obtain ⟨path, writes⟩ := Option.isSome_iff_exists.mp writes
      exact absurd hands (Action.mapper?_ne_some writes mapper)

end Pass

/-! ## A shipment -/

namespace Shipment

/-- Copies the weight of a crate and then fails, because the crate has no label. -/
def packing : FieldMapper where
  entries :=
    [Entry.copy "weight",
      ⟨.field ⟨"label.text", .member (.property "label") "text"⟩ (.ofProperty "label") none, none⟩]
  autoMapping := false

/-- Copies the port and the cargo, and the date because nothing else takes care of it. Crates become
parcels by `packing`. -/
def shipping : FieldMapper where
  entries := [Entry.copy "port", Entry.copy "cargo"]
  conversions := ConversionRegistry.empty.add (.record (some "Crate")) (.record (some "Parcel"))
    ((packing.nested 0).toConverter fun _ t => t.emptyRecord)

/-- A crate that is to go to a port. -/
def order : Value :=
  .record ⟨.unnamed, [("port", .string "Perth"),
    ("cargo", .record ⟨.named "Crate", [("weight", .string "3kg")]⟩),
    ("date", .string "Monday")]⟩

/-- A shipment that takes parcels. -/
def shipment : Value :=
  .record ⟨.typed ⟨"Shipment", [⟨"port", .string, true⟩, ⟨"cargo", .record "Parcel", true⟩,
    ⟨"date", .any, true⟩]⟩, [("port", .string "Sydney")]⟩

/-- The entry that copies the cargo, under a guard. -/
def guardedCargo (guard : Expression) : Entry := ⟨(Entry.copy "cargo").action, some guard⟩

/-- A guard that does not hold, a guard without a verdict, and a crate whose packing fails midway:
the shipment stays as it was. -/
theorem runEntry_keeps_shipment :
    let result e := (((shipping.passOver order).runEntry false e shipment).run []).1.1
    let after e := (((shipping.passOver order).runEntry false e shipment).run []).1.2
    ((result (guardedCargo ⟨"false", .literal (.boolean false)⟩)).isSkipped = true ∧
        after (guardedCargo ⟨"false", .literal (.boolean false)⟩) = shipment) ∧
      ((result (guardedCargo ⟨"#crane", .variable "crane"⟩)).outcome =
          .failure (.condition (.unknownVariable "crane")) .error ∧
        after (guardedCargo ⟨"#crane", .variable "crane"⟩) = shipment) ∧
      ((result (Entry.copy "cargo")).isFailure = true ∧ after (Entry.copy "cargo") = shipment) :=
  ⟨⟨by decide, ((Pass.runEntry_keeps_target _ _ _ _ _).1 (by decide)).1⟩,
    ⟨rfl, (Pass.runEntry_keeps_target _ _ _ _ _).2.1 (.unknownVariable "crane") .error (.inl rfl)⟩,
    ⟨by decide, (Pass.runEntry_keeps_target _ _ _ _ _).2.2 rfl (by decide)⟩⟩

end Shipment

end Remap
