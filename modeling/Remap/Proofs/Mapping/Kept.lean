import Remap.Proofs.Mapping.Steps

/-!
# What passes keep

A relation between a target and what is left of it, if it is reflexive and transitive, holds for a
pass as soon as it holds for every store at a path and every run of a nested mapper. A mapper is
layered if its nested mappers are mappers of entries again, down to entries that write to paths;
for layered mappers the stores alone decide.
-/

namespace Remap

/-- Every store at the path relates the root to what it leaves. -/
def Path.Keeps (R : Value → Value → Prop) (path : Path) : Prop :=
  ∀ instantiate root place w, Path.Lands instantiate path.segments root place →
    R root (place.store w)

/-- Every run relates the target to what it leaves. -/
def NestedMapper.Keeps (R : Value → Value → Prop) (mapper : NestedMapper) : Prop :=
  ∀ source target scope, R target ((mapper.run source target).run scope).1.2

/-- What the action writes to, or hands the target to, keeps the relation. -/
structure Action.Keeps (R : Value → Value → Prop) (a : Action) : Prop where
  path : ∀ path, a.path? = some path → path.Keeps R
  mapper : ∀ mapper, a.mapper? = some mapper → mapper.Keeps R

mutual

/-- An entry that writes to a path or hands the target to a layered mapper. -/
inductive Entry.Layered [Regex.Engine] : Entry → Prop
  | writes (e : Entry) (path : Path) (writes : e.action.path? = some path) : Entry.Layered e
  | hands (e : Entry) (inner : FieldMapper) (tag : Nat)
      (hands : e.action.mapper? = some (inner.nested tag)) (below : FieldMapper.Layered inner) :
      Entry.Layered e

/-- A mapper that views values by their kind and whose entries are layered. -/
inductive FieldMapper.Layered [Regex.Engine] : FieldMapper → Prop
  | intro (m : FieldMapper) (views : m.viewOf = View.ofValue)
      (entries : ∀ e ∈ m.entries, Entry.Layered e) : FieldMapper.Layered m

end

variable {R : Value → Value → Prop}

theorem Pass.Effect.keeps [Regex.Engine] {pass : Pass} {e : Entry} {target after : Value}
    {scope : Scope}
    {applied : Except FailureCause (Option Value)} (refl : ∀ v, R v v) (kept : e.action.Keeps R)
    (effect : Pass.Effect pass e target scope applied after) : R target after := by
  cases effect with
  | guarded | nothing | failed => exact refl target
  | stored path v w place scope' writes lands _ =>
    exact kept.path path writes pass.coercer.instantiate target place w lands
  | nested mapper source v after verdict scope' hands ran =>
    have related := kept.mapper mapper hands source target scope
    rw [ran] at related
    exact related

/-- What every entry keeps, the entries keep. -/
theorem Pass.runEntries_keeps [Regex.Engine] {pass : Pass} {auto : Bool} {entries : List Entry}
    {target : Value} {scope : Scope} (refl : ∀ v, R v v) (trans : ∀ u v w, R u v → R v w → R u w)
    (kept : ∀ e ∈ entries, e.action.Keeps R) :
    R target ((pass.runEntries auto entries target).run scope).1.2 := by
  induction entries generalizing target scope with
  | nil => exact refl target
  | cons e rest ih =>
    obtain ⟨_, effect, -⟩ := Pass.runEntry_effect pass auto e target scope
    have first := effect.keeps refl (kept e List.mem_cons_self)
    exact trans _ _ _ first (ih fun other member => kept other (List.mem_cons_of_mem _ member))

namespace FieldMapper

/-- What the declared entries and those found by name keep, the pass keeps. -/
theorem run_keeps [Regex.Engine] {m : FieldMapper} {source target : Value} {scope : Scope}
    (refl : ∀ v, R v v) (trans : ∀ u v w, R u v → R v w → R u w)
    (declared : ∀ e ∈ m.entries, e.action.Keeps R)
    (copied : ∀ e ∈ m.found source target scope, e.action.Keeps R) :
    R target ((m.run source target).run scope).1.2 :=
  trans _ _ _ (Pass.runEntries_keeps refl trans declared)
    (Pass.runEntries_keeps refl trans copied)

theorem copy_keeps {name : String} (kept : (Path.ofProperty name).Keeps R) :
    (Entry.copy name).action.Keeps R := by
  refine ⟨?_, ?_⟩
  · intro path writes
    cases writes
    exact kept
  · intro mapper hands
    cases hands

/-- What every copy keeps, the entries found by name keep. -/
theorem found_keeps [Regex.Engine] {m : FieldMapper} {source target : Value} {scope : Scope}
    (copied : ∀ name, (Path.ofProperty name).Keeps R) :
    ∀ e ∈ m.found source target scope, e.action.Keeps R := by
  intro e member
  obtain ⟨name, equal⟩ := exists_copy_of_mem_copies member
  rw [equal]
  exact copy_keeps (copied name)

/-- What the declared entries and every copy keep, the mapper keeps inside another one. -/
theorem nested_keeps [Regex.Engine] {m : FieldMapper} (refl : ∀ v, R v v)
    (trans : ∀ u v w, R u v → R v w → R u w) (declared : ∀ e ∈ m.entries, e.action.Keeps R)
    (copied : ∀ name, (Path.ofProperty name).Keeps R) (tag : Nat) : (m.nested tag).Keeps R := by
  intro source target scope
  simp only [nested, mapInto]
  cases missing? source target with
  | some role => exact refl target
  | none => exact run_keeps refl trans declared (found_keeps copied)

end FieldMapper

mutual

/-- What every store keeps, the action of a layered entry keeps. -/
theorem Entry.Layered.keeps [Regex.Engine] (refl : ∀ v, R v v)
    (trans : ∀ u v w, R u v → R v w → R u w)
    (stores : ∀ path, Path.Keeps R path) : ∀ {e : Entry}, e.Layered → e.action.Keeps R
  | _, .writes _ _ writes => by
    refine ⟨fun other _ => stores other, ?_⟩
    intro mapper hands
    exact absurd hands (Action.mapper?_ne_some writes mapper)
  | _, .hands _ inner tag hands below => by
    have kept : (inner.nested tag).Keeps R := FieldMapper.Layered.keeps refl trans stores below tag
    refine ⟨fun other _ => stores other, ?_⟩
    intro mapper also
    cases hands.symm.trans also
    exact kept

/-- What every store keeps, a layered mapper keeps inside another one. -/
theorem FieldMapper.Layered.keeps [Regex.Engine] (refl : ∀ v, R v v)
    (trans : ∀ u v w, R u v → R v w → R u w) (stores : ∀ path, Path.Keeps R path) :
    ∀ {m : FieldMapper}, m.Layered → ∀ tag, (m.nested tag).Keeps R
  | _, .intro _ _ entries =>
    FieldMapper.nested_keeps refl trans
      (fun e member => Entry.Layered.keeps refl trans stores (entries e member))
      (fun name => stores (.ofProperty name))

end

/-- What every store keeps, a pass of a layered mapper keeps. -/
theorem FieldMapper.Layered.mapWithResults_keeps [Regex.Engine] (refl : ∀ v, R v v)
    (trans : ∀ u v w, R u v → R v w → R u w) (stores : ∀ path, Path.Keeps R path) {m : FieldMapper}
    (layered : m.Layered) {source target : Value} (hasSource : source.isNull = false)
    (hasTarget : target.isNull = false) (scope : Scope) :
    ∃ results last scope',
      (m.mapWithResults source target).run scope = (.ok (results, last), scope') ∧
        R target last := by
  cases layered with
  | intro _ _ entries =>
    refine ⟨_, _, _, m.run_mapWithResults hasSource hasTarget scope, ?_⟩
    exact run_keeps refl trans (fun e member => (entries e member).keeps refl trans stores)
      (found_keeps fun name => stores (.ofProperty name))

end Remap
