import Remap.Proofs.Convert.Everywhere
import Remap.Proofs.Expression.Variables
import Remap.Proofs.Mapping.Preview
import Remap.Proofs.Mapping.Turns
import Remap.Proofs.Path.Offer

/-!
# Passes that run again

A mapper is settled if its parts look at nothing but their arguments: conversions do not depend on
the open passes, and guards do not look at the target. What a pass of a settled mapper does to a
target is then to make offers, and which offers these are depends on the source and on the shape
of the target, which no pass changes.

Main statement: a pass of a settled mapper that runs again, on the target that it left, leaves this
target as it is.
-/

namespace Remap

/-! ## Settled parts -/

/-- On targets of the shape of this one, the body makes the same offers and does nothing else. -/
def MakesOffers (types : TypeRegistry) {α : Type} (target : Value)
    (body : Value → Scoped (α × Value)) : Prop :=
  ∃ offers, ∀ other, target.SameRoot other →
    ∃ a, body other = pure (a, Offer.storeAll types.emptyFor offers other)

/-- The result of each conversion is settled, whatever passes are open. -/
def TypedConverter.Settled (converter : TypedConverter Scoped) : Prop :=
  ∀ v t, ∃ result, (converter v t).run = pure result

/-- Every run makes offers and does nothing else. -/
def NestedMapper.Settled (types : TypeRegistry) (mapper : NestedMapper) : Prop :=
  ∀ source target, MakesOffers types target (mapper.run source)

/-- Every part of the mapper is settled. -/
structure FieldMapper.Settled (types : TypeRegistry) (m : FieldMapper) : Prop where
  types_eq : m.types = types
  views : m.viewOf = View.ofValue
  converters : m.conversions.Everywhere TypedConverter.Settled
  guards : ∀ e ∈ m.entries, ∀ guard, e.condition = some guard →
    "target" ∉ guard.tree.variables
  nested : ∀ e ∈ m.entries, ∀ mapper, e.action.mapper? = some mapper → mapper.Settled types

variable {types : TypeRegistry}

/-- What is created for a declared type is a record. -/
theorem TypeRegistry.exists_emptyFor_eq (types : TypeRegistry) (t : FieldType) :
    ∃ r, types.emptyFor t = .record r := by
  unfold emptyFor
  split
  · split
    · exact ⟨_, rfl⟩
    · exact ⟨_, rfl⟩
  · exact ⟨_, rfl⟩

/-- A settled nested mapper is settled as a converter. -/
theorem NestedMapper.Settled.toConverter {mapper : NestedMapper} (settled : mapper.Settled types)
    (targetFor : Value → FieldType → Value) :
    TypedConverter.Settled (mapper.toConverter targetFor) := by
  intro v t
  cases null : v.isNull with
  | true =>
    rw [NestedMapper.toConverter, if_pos null]
    exact ⟨.ok .null, rfl⟩
  | false =>
    obtain ⟨offers, runs⟩ := settled v (targetFor v t)
    obtain ⟨verdict, run⟩ := runs (targetFor v t) (.refl _)
    simp only [NestedMapper.toConverter, null, Bool.false_eq_true, if_false, ExceptT.run_mk, run,
      pure_bind]
    cases verdict with
    | ok _ => exact ⟨_, rfl⟩
    | error error => exact ⟨_, rfl⟩

/-- Fitting a value by settled converters is settled. -/
theorem settled_coerceWith {conversions : ConversionRegistry Scoped}
    (settled : conversions.Everywhere TypedConverter.Settled) (types : TypeRegistry) (v : Value)
    (t : FieldType) : ∃ result, (coerceWith conversions types v t).run = pure result := by
  rcases coerceWith_cases conversions types v t with fitted | ⟨converter, found, run⟩
  · exact fitted
  · obtain ⟨result, converted⟩ := settled.of_find found v t
    rw [run, converted]
    exact ⟨_, rfl⟩

/-! ## Offers of an entry -/

/-- A write as an offer. -/
def Offer.ofWrite (coercer : Coercer Scoped) (path : Path) (v : Value) : Offer :=
  ⟨path.segments, fun t => ((coercer.coerce v t).run.run []).1.toOption⟩

namespace Offer

variable {instantiate : FieldType → Value} {v : Value}

theorem sameRoot_store? {o : Offer} {w : Value} (stored : o.store? instantiate v = some w) :
    v.SameRoot w := by
  obtain ⟨s, slot, x, found, rfl⟩ := exists_putSlot_of_store? stored
  rcases Value.slot?_cases found with ⟨r, name, rfl, rfl, -⟩ | ⟨items, position, rfl, rfl, -⟩
  · rfl
  · rfl

/-- Offers leave the shape of a value. -/
theorem sameRoot_storeAll (instantiate : FieldType → Value) (offers : List Offer) (v : Value) :
    v.SameRoot (storeAll instantiate offers v) := by
  induction offers generalizing v with
  | nil => exact .refl v
  | cons o rest ih =>
    rw [storeAll]
    cases stored : o.store? instantiate v with
    | none => exact ih v
    | some w => exact .trans _ _ _ (sameRoot_store? stored) (ih w)

/-- Null takes no offer. -/
theorem storeAll_null (offers : List Offer) : storeAll instantiate offers .null = .null := by
  induction offers with
  | nil => rfl
  | cons o rest ih =>
    have refused : o.store? instantiate .null = none := by
      obtain ⟨segments, fit⟩ := o
      cases segments with
      | nil => rfl
      | cons s more => exact store?_of_slot?_eq_none rfl
    rw [storeAll, refused]
    exact ih

end Offer

namespace Pass

variable {pass : Pass}

/-- A settled write is an offer that is made once. -/
theorem exists_write_eq (settled : ∀ v t, ∃ result, (pass.coercer.coerce v t).run = pure result)
    (path : Path) (v target : Value) :
    ∃ applied, pass.write path v target = pure (applied,
      Offer.storeAll pass.coercer.instantiate [.ofWrite pass.coercer path v] target) := by
  rcases Offer.cases_of_writeInto path pass.coercer target v with
    ⟨error, failed, refused⟩ | ⟨place, landed, stored⟩
  · rw [write, failed]
    simp only [Offer.storeAll, Offer.ofWrite, refused]
    exact ⟨_, rfl⟩
  · obtain ⟨result, fitted⟩ := settled v place.declared
    rw [write, landed, Path.storeFitted, fitted]
    simp only [Offer.storeAll, Offer.ofWrite, stored, fitted]
    cases result with
    | ok w => exact ⟨_, rfl⟩
    | error error => exact ⟨_, rfl⟩

variable [Regex.Engine]

/-- A guard without the target gives the same verdict for every target. -/
theorem applies_eq (pass : Pass) {condition : Option Expression}
    (free : ∀ guard, condition = some guard → "target" ∉ guard.tree.variables)
    (target other : Value) : pass.applies other condition = pass.applies target condition := by
  cases condition with
  | none => rfl
  | some guard =>
    refine guard.holds_eq_of_agrees ⟨rfl, fun name member => ?_⟩
    have different : name ≠ "target" := by
      rintro rfl
      exact free guard rfl member
    simp [guardEnvironment, Fields.get?, different.symm]

/-- An entry with settled parts makes offers and does nothing else. -/
theorem runEntry_makesOffers (instantiates : pass.coercer.instantiate = types.emptyFor)
    (settled : ∀ v t, ∃ result, (pass.coercer.coerce v t).run = pure result) (auto : Bool)
    {e : Entry} (free : ∀ guard, e.condition = some guard → "target" ∉ guard.tree.variables)
    (nested : ∀ mapper, e.action.mapper? = some mapper → mapper.Settled types) (target : Value) :
    MakesOffers types target (pass.runEntry auto e) := by
  have same (other : Value) := pass.applies_eq free target other
  cases offered : pass.offered? target e with
  | some offer =>
    obtain ⟨path, v⟩ := offer
    refine ⟨[.ofWrite pass.coercer path v], fun other _ => ?_⟩
    have also := (offered?_eq_of_applies (same other)).trans offered
    obtain ⟨applied, written⟩ := exists_write_eq settled path v other
    rw [runEntry_of_offered auto also, written, instantiates]
    exact ⟨_, rfl⟩
  | none =>
    cases handed : pass.handed? target e with
    | some call =>
      obtain ⟨mapper, source⟩ := call
      obtain ⟨offers, runs⟩ := nested mapper (mapper?_of_handed? handed) source target
      refine ⟨offers, fun other sameRoot => ?_⟩
      have also := (handed?_eq_of_applies (same other)).trans handed
      obtain ⟨v, entry⟩ := runEntry_of_handed auto also
      obtain ⟨verdict, run⟩ := runs other sameRoot
      rw [entry, runNested, run]
      cases verdict with
      | ok _ => exact ⟨_, rfl⟩
      | error error => exact ⟨_, rfl⟩
    | none =>
      refine ⟨[], fun other _ => ?_⟩
      exact runEntry_of_rest auto ((offered?_eq_of_applies (same other)).trans offered)
        ((handed?_eq_of_applies (same other)).trans handed)

/-- Entries that make offers one by one make offers in a row. -/
theorem runEntries_makesOffers {auto : Bool} {entries : List Entry}
    (each : ∀ e ∈ entries, ∀ target, MakesOffers types target (pass.runEntry auto e))
    (target : Value) : MakesOffers types target (pass.runEntries auto entries) := by
  induction entries with
  | nil => exact ⟨[], fun other _ => ⟨[], rfl⟩⟩
  | cons e rest ih =>
    obtain ⟨offers, first⟩ := each e List.mem_cons_self target
    obtain ⟨more, behind⟩ := ih fun e' member => each e' (List.mem_cons_of_mem e member)
    refine ⟨offers ++ more, fun other same => ?_⟩
    obtain ⟨result, run⟩ := first other same
    have still := Value.SameRoot.trans _ _ _ same
      (Offer.sameRoot_storeAll types.emptyFor offers other)
    obtain ⟨results, runRest⟩ := behind _ still
    refine ⟨result :: results, ?_⟩
    simp only [runEntries, run, pure_bind, runRest, Offer.storeAll_append]

end Pass

namespace FieldMapper

theorem viewOfValue_eq {target other : Value} (same : target.SameRoot other) :
    View.ofValue other = View.ofValue target := by
  cases target with
  | record r =>
    obtain ⟨s, rfl, -⟩ := same.exists_record
    rfl
  | _ =>
    cases other with
    | record s => cases same
    | _ => rfl

/-- For targets of one shape the same entries copy by name. -/
theorem autoEntries_eq_of_sameRoot {m : FieldMapper} (views : m.viewOf = View.ofValue)
    (source : Value) {target other : Value} (same : target.SameRoot other) :
    m.autoEntries source other = m.autoEntries source target := by
  rw [← copies_eq_autoEntries views source same, autoEntries, views, viewOfValue_eq same]

namespace Settled

variable {m : FieldMapper}

theorem exists_coerce_eq (settled : m.Settled types) (v : Value) (t : FieldType) :
    ∃ result, (m.coercer.coerce v t).run = pure result :=
  settled_coerceWith settled.converters m.types v t

theorem instantiate_eq (settled : m.Settled types) : m.coercer.instantiate = types.emptyFor := by
  rw [← settled.types_eq]
  rfl

variable [Regex.Engine]

/-- An entry of a settled mapper makes offers, and so does one that copies by name. -/
theorem runEntry_makesOffers (settled : m.Settled types) (source : Value) (auto : Bool) {e : Entry}
    (entry : e ∈ m.entries ∨ ∃ name, e = Entry.copy name) (target : Value) :
    MakesOffers types target ((m.passOver source).runEntry auto e) := by
  refine Pass.runEntry_makesOffers settled.instantiate_eq settled.exists_coerce_eq auto ?_ ?_ target
  · rcases entry with declared | ⟨name, rfl⟩
    · exact settled.guards e declared
    · intro guard guarded
      cases guarded
  · rcases entry with declared | ⟨name, rfl⟩
    · exact settled.nested e declared
    · intro mapper hands
      cases hands

/-- A pass of a settled mapper makes offers and does nothing else. -/
theorem run_makesOffers (settled : m.Settled types) (source target : Value) :
    MakesOffers types target (m.run source) := by
  obtain ⟨offers, declared⟩ := Pass.runEntries_makesOffers
    (fun e member => settled.runEntry_makesOffers source false (.inl member)) target
  have copies (e : Entry) (member : e ∈ m.autoEntries source target) :=
    settled.runEntry_makesOffers source true (.inr (exists_copy_of_mem_copies member))
  obtain ⟨more, copied⟩ := Pass.runEntries_makesOffers copies target
  refine ⟨offers ++ more, fun other same => ?_⟩
  have left : other.SameRoot (Offer.storeAll types.emptyFor offers other) :=
    Offer.sameRoot_storeAll types.emptyFor offers other
  have found : m.copies (m.passOver source).fieldNames (m.viewOf other)
      (Offer.storeAll types.emptyFor offers other) = m.autoEntries source target :=
    (copies_eq_autoEntries settled.views source left).trans
      (autoEntries_eq_of_sameRoot settled.views source same)
  obtain ⟨results, ran⟩ := declared other same
  obtain ⟨results', ran'⟩ := copied _ (.trans _ _ _ same left)
  refine ⟨results ++ results', ?_⟩
  simp only [run, ran, pure_bind, found, ran', Offer.storeAll_append]
  rfl

/-- A settled mapper is settled as a part of another one. -/
theorem settled_nested (settled : m.Settled types) (tag : Nat) : (m.nested tag).Settled types := by
  intro source target
  cases noSource : source.isNull with
  | true =>
    refine ⟨[], fun other _ => ⟨.error (.missingArgument .source), ?_⟩⟩
    simp only [FieldMapper.nested, mapInto, missing?, noSource, if_true]
    rfl
  | false =>
    obtain ⟨offers, runs⟩ := settled.run_makesOffers source target
    refine ⟨offers, fun other same => ?_⟩
    cases noTarget : other.isNull with
    | true =>
      rw [Value.eq_null_of_isNull noTarget, Offer.storeAll_null]
      refine ⟨.error (.missingArgument .target), ?_⟩
      simp only [FieldMapper.nested, mapInto, missing?, noSource]
      rfl
    | false =>
      obtain ⟨results, ran⟩ := runs other same
      simp only [FieldMapper.nested, mapInto, missing?, noSource, noTarget, Bool.false_eq_true,
        if_false, ran, pure_bind]
      exact ⟨_, rfl⟩

theorem mapWithResults_eq {source target last : Value} {results : List MappingResult}
    (hasSource : source.isNull = false) (hasTarget : target.isNull = false)
    (ran : m.run source target = pure (results, last)) :
    m.mapWithResults source target = pure (.ok (results, last)) := by
  simp only [mapWithResults, missing?, hasSource, hasTarget, Bool.false_eq_true, if_false, ran,
    pure_bind]

/-- Mapping again changes nothing: a settled mapper that maps the same source onto the target that
it left leaves this target as it is. -/
theorem mapWithResults_again (settled : m.Settled types) {source target : Value}
    (hasSource : source.isNull = false) (hasTarget : target.isNull = false) :
    ∃ results last again,
      m.mapWithResults source target = pure (.ok (results, last)) ∧
        m.mapWithResults source last = pure (.ok (again, last)) := by
  obtain ⟨offers, runs⟩ := settled.run_makesOffers source target
  let last := Offer.storeAll types.emptyFor offers target
  obtain ⟨results, first⟩ := runs target (.refl target)
  obtain ⟨again, second⟩ := runs last (Offer.sameRoot_storeAll types.emptyFor offers target)
  have unchanged : Offer.storeAll types.emptyFor offers last = last :=
    Offer.storeAll_storeAll types.exists_emptyFor_eq offers target
  rw [unchanged] at second
  exact ⟨results, last, again, mapWithResults_eq hasSource hasTarget first,
    mapWithResults_eq hasSource (Offer.isNull_storeAll hasTarget) second⟩

end Settled

end FieldMapper

end Remap
