import Remap.Proofs.Convert.WellFormed
import Remap.Proofs.Expression.WellFormed
import Remap.Proofs.Mapping.Kept

/-!
# Passes leave well-formed values

What an entry writes comes from the source, through its converter and the coercer. If these are
sound, and the nested mappers too, then each entry leaves a well-formed target, and so does a pass,
whether or not its entries fail.
-/

namespace Remap

/-! ## Sound parts -/

/-- The converter that an action runs on its value. -/
def Action.converter? : Action → Option Converter
  | .field _ _ converter => converter
  | .assembled _ _ assembler => some assembler
  | .fanOut .. => none
  | .whole .. => none

/-- The converter makes well-formed values of well-formed ones. -/
def Converter.Sound (c : Converter) : Prop :=
  ∀ v w, v.WellFormed → c.apply v = .ok w → w.WellFormed

/-- From a well-formed source the mapper leaves a well-formed target, whatever its verdict. -/
def NestedMapper.Sound (mapper : NestedMapper) : Prop :=
  ∀ source target scope, source.WellFormed → target.WellFormed →
    ((mapper.run source target).run scope).1.2.WellFormed

/-- What the action converts with, and what it hands the target to, is sound. -/
structure Action.Sound (a : Action) : Prop where
  converter : ∀ c, a.converter? = some c → c.Sound
  mapper : ∀ mapper, a.mapper? = some mapper → mapper.Sound

/-- The source and the way values are fitted give well-formed values. -/
structure Pass.Sound (pass : Pass) : Prop where
  source : pass.source.WellFormed
  coercer : pass.coercer.Sound

theorem Converter.sound_transform (t : Transform) : (Converter.transform t).Sound :=
  fun _ _ formed applied => Transform.wellFormed_of_apply formed applied

theorem Action.sound_copy (name : String) : (Entry.copy name).action.Sound := by
  refine ⟨?_, ?_⟩
  · intro c runs
    cases runs
  · intro mapper hands
    cases hands

/-- A sound mapper as a converter is sound if it starts from well-formed targets. -/
theorem NestedMapper.Sound.toConverter {mapper : NestedMapper} (sound : mapper.Sound)
    {targetFor : Value → FieldType → Value} (starts : ∀ v t, (targetFor v t).WellFormed) :
    (mapper.toConverter targetFor).Sound := by
  intro v t scope w scope' formed ran
  cases null : v.isNull with
  | true =>
    simp only [NestedMapper.toConverter, null, if_true] at ran
    cases ran
    exact .null
  | false =>
    have kept := sound v (targetFor v t) scope formed (starts v t)
    rw [NestedMapper.run_toConverter _ _ null] at ran
    cases outcome : (mapper.run v (targetFor v t)).run scope with
    | mk left after =>
      obtain ⟨verdict, last⟩ := left
      rw [outcome] at ran kept
      cases verdict with
      | ok _ =>
        cases ran
        exact kept
      | error e => cases ran

/-! ## Entries -/

/-- A value that is reported as mapped is well-formed. -/
def MappingResult.WellFormed (r : MappingResult) : Prop :=
  ∀ v, r.outcome = .success v → v.WellFormed

/-- The target is well-formed, and so is the value, if there is one. -/
structure Applied.WellFormed (applied : Applied) : Prop where
  target : applied.2.WellFormed
  value : ∀ v, applied.1 = .ok (some v) → v.WellFormed

namespace Applied.WellFormed

variable {v after : Value}

theorem success (target : after.WellFormed) (value : v.WellFormed) :
    Applied.WellFormed (.ok (some v), after) := by
  refine ⟨target, ?_⟩
  rintro _ ⟨⟩
  exact value

theorem nothing (target : after.WellFormed) : Applied.WellFormed (.ok none, after) :=
  ⟨target, nofun⟩

theorem failure (target : after.WellFormed) (cause : FailureCause) :
    Applied.WellFormed (.error cause, after) :=
  ⟨target, nofun⟩

end Applied.WellFormed

namespace Pass

variable {pass : Pass} {v target : Value}

theorem Sound.read [Regex.Engine] (sound : pass.Sound) {e : Expression}
    (read : pass.read e = .ok v) : v.WellFormed := by
  refine Expression.Expr.wellFormed_of_evaluate ⟨sound.source, ?_⟩ read
  intro binding member
  cases List.mem_singleton.mp member
  exact sound.source

/-- Values are gathered in a record without declarations. -/
theorem Sound.gatherFields [Regex.Engine] (sound : pass.Sound) {sources : List Expression}
    {parts all : Record} (formed : Record.WellFormed parts) (shape : parts.shape = .unnamed)
    (gathered : pass.gatherFields parts sources = .ok all) : Record.WellFormed all := by
  induction sources generalizing parts with
  | nil =>
    cases gathered
    exact formed
  | cons e rest ih =>
    rw [Pass.gatherFields] at gathered
    obtain ⟨v, read, gathered⟩ := bind_eq_ok.mp gathered
    have accepted : parts.accepts e.text = true := by simp only [RecordOf.accepts, shape]
    exact ih (formed.put accepted (sound.read read)) shape gathered

theorem Sound.gatherGroup [Regex.Engine] (sound : pass.Sound) {stem : String} {names : List String}
    {parts all : Record} (formed : Record.WellFormed parts) (shape : parts.shape = .unnamed)
    (gathered : pass.gatherGroup stem parts names = .ok all) : Record.WellFormed all := by
  induction names generalizing parts with
  | nil =>
    cases gathered
    exact formed
  | cons name rest ih =>
    rw [Pass.gatherGroup] at gathered
    split at gathered
    · exact ih formed shape gathered
    · next suffix _ =>
      obtain ⟨v, read, gathered⟩ := bind_eq_ok.mp gathered
      have accepted : parts.accepts suffix = true := by simp only [RecordOf.accepts, shape]
      exact ih (formed.put accepted (sound.read read)) shape gathered

theorem Sound.gather [Regex.Engine] (sound : pass.Sound) {assembly : Assembly} {all : Record}
    (gathered : pass.gather assembly = .ok all) : Record.WellFormed all := by
  cases assembly with
  | fields sources => exact sound.gatherFields (.empty rfl) rfl gathered
  | group stem => exact sound.gatherGroup (.empty rfl) rfl gathered

theorem Sound.write (sound : pass.Sound) (path : Path) (value : v.WellFormed)
    (formed : target.WellFormed) (scope : Scope) :
    Applied.WellFormed ((pass.write path v target).run scope).1 := by
  have left := Path.wellFormed_writeInto sound.coercer path formed value scope
  rw [Pass.write, Scoped.run_bind]
  cases written : (path.writeInto pass.coercer target v).run scope with
  | mk result after =>
    obtain ⟨verdict, root⟩ := result
    rw [written] at left
    cases verdict with
    | ok _ => exact .success left value
    | error e => exact .failure left _

theorem Sound.convertAndWrite (sound : pass.Sound) {converter : Option Converter}
    (converts : ∀ c, converter = some c → c.Sound) (path : Path) (value : v.WellFormed)
    (formed : target.WellFormed) (scope : Scope) :
    Applied.WellFormed ((pass.convertAndWrite converter path v target).run scope).1 := by
  cases converter with
  | none => exact sound.write path value formed scope
  | some c =>
    simp only [Pass.convertAndWrite]
    cases applied : c.apply v with
    | error e => exact .failure formed _
    | ok w => exact sound.write path (converts c rfl v w value applied) formed scope

theorem wellFormed_runNested {mapper : NestedMapper} (sound : mapper.Sound) {source : Value}
    (given : source.WellFormed) (value : v.WellFormed) (formed : target.WellFormed)
    (scope : Scope) : Applied.WellFormed ((runNested mapper source v target).run scope).1 := by
  have left := sound source target scope given formed
  rw [runNested, Scoped.run_bind]
  cases ran : (mapper.run source target).run scope with
  | mk result after =>
    obtain ⟨verdict, last⟩ := result
    rw [ran] at left
    cases verdict with
    | ok _ => exact .success left value
    | error e => exact .failure left _

/-- A sound action leaves a well-formed target, also if it fails. -/
theorem Sound.apply [Regex.Engine] (sound : pass.Sound) {action : Action} (acts : action.Sound)
    (formed : target.WellFormed) (scope : Scope) :
    Applied.WellFormed ((pass.apply target action).run scope).1 := by
  cases action with
  | field source path converter =>
    simp only [Pass.apply]
    cases read : pass.read source with
    | error e => exact .failure formed _
    | ok v => exact sound.convertAndWrite acts.converter path (sound.read read) formed scope
  | fanOut source mapper =>
    simp only [Pass.apply]
    cases read : pass.read source with
    | error e => exact .failure formed _
    | ok v =>
      dsimp only
      split
      · exact .nothing formed
      · have given := sound.read read
        exact wellFormed_runNested (acts.mapper mapper rfl) given given formed scope
  | whole claimed mapper =>
    exact wellFormed_runNested (acts.mapper mapper rfl) sound.source .null formed scope
  | assembled sources path assembler =>
    simp only [Pass.apply]
    cases gathered : pass.gather sources with
    | error e => exact .failure formed _
    | ok parts =>
      exact sound.convertAndWrite acts.converter path (sound.gather gathered) formed scope

/-- A success reports the value that was applied. -/
theorem wellFormed_outcome {applied : Applied} (formed : applied.WellFormed) {weight : Severity}
    (success : outcome weight applied.1 = .success v) : v.WellFormed := by
  obtain ⟨report, after⟩ := applied
  cases report with
  | error cause => cases success
  | ok found =>
    cases found with
    | none => cases success
    | some w =>
      cases success
      exact formed.value v rfl

/-- An entry whose guard does not hold, or has no verdict, leaves the target; any other one leaves
what its action leaves. -/
theorem Sound.runEntry [Regex.Engine] (sound : pass.Sound) {e : Entry} (acts : e.action.Sound)
    (auto : Bool) (formed : target.WellFormed) (scope : Scope) :
    ((pass.runEntry auto e target).run scope).1.1.WellFormed ∧
      ((pass.runEntry auto e target).run scope).1.2.WellFormed := by
  unfold Pass.runEntry outcomeOf
  cases verdict : pass.applies target e.condition with
  | error cause => exact ⟨nofun, formed⟩
  | ok holds =>
    cases holds with
    | false => exact ⟨nofun, formed⟩
    | true =>
      have applied := sound.apply acts formed scope
      exact ⟨fun v success => wellFormed_outcome applied success, applied.target⟩

/-- Sound entries leave a well-formed target, one after the other. -/
theorem Sound.runEntries [Regex.Engine] (sound : pass.Sound) {entries : List Entry}
    (acts : ∀ e ∈ entries, e.action.Sound) (auto : Bool) (formed : target.WellFormed)
    (scope : Scope) :
    (∀ r ∈ ((pass.runEntries auto entries target).run scope).1.1, r.WellFormed) ∧
      ((pass.runEntries auto entries target).run scope).1.2.WellFormed := by
  induction entries generalizing target scope with
  | nil => exact ⟨List.forall_mem_nil _, formed⟩
  | cons e rest ih =>
    obtain ⟨reported, next⟩ := sound.runEntry (acts e List.mem_cons_self) auto formed scope
    have actsLater : ∀ other ∈ rest, other.action.Sound :=
      fun other member => acts other (List.mem_cons_of_mem e member)
    obtain ⟨others, last⟩ := ih actsLater next ((pass.runEntry auto e target).run scope).2
    exact ⟨List.forall_mem_cons.mpr ⟨reported, others⟩, last⟩

end Pass

/-! ## Mappers -/

/-- The entries and the converters of the mapper are sound. -/
structure FieldMapper.Sound (m : FieldMapper) : Prop where
  entries : ∀ e ∈ m.entries, e.action.Sound
  conversions : m.conversions.Everywhere TypedConverter.Sound

namespace FieldMapper.Sound

variable {m : FieldMapper} {source target : Value}

theorem passOver (sound : m.Sound) (given : source.WellFormed) : (m.passOver source).Sound :=
  ⟨given, Coercer.sound_ofRegistries sound.conversions m.types⟩

variable [Regex.Engine]

/-- A pass of a sound mapper reports well-formed values and leaves a well-formed target. -/
theorem run (sound : m.Sound) (given : source.WellFormed) (formed : target.WellFormed)
    (scope : Scope) :
    (∀ r ∈ ((m.run source target).run scope).1.1, r.WellFormed) ∧
      ((m.run source target).run scope).1.2.WellFormed := by
  have copies : ∀ e ∈ m.found source target scope, e.action.Sound := by
    intro e member
    obtain ⟨name, equal⟩ := exists_copy_of_mem_copies member
    rw [equal]
    exact Action.sound_copy name
  have pass := sound.passOver given
  obtain ⟨declared, next⟩ := pass.runEntries sound.entries false formed
    (scope.enter source.key.text)
  obtain ⟨copied, last⟩ := pass.runEntries copies true next
    (m.runDeclared source target scope).2
  refine ⟨?_, last⟩
  intro r member
  rcases List.mem_append.mp member with first | second
  · exact declared r first
  · exact copied r second

/-- A sound mapper is sound inside another one. -/
theorem nested (sound : m.Sound) (tag : Nat) : (m.nested tag).Sound := by
  intro source target scope given formed
  simp only [FieldMapper.nested, mapInto]
  cases missing? source target with
  | some role => exact formed
  | none => exact (sound.run given formed scope).2

end FieldMapper.Sound

end Remap
