import Remap.Proofs.Mapping.Steps

/-!
# What a pass targets

The paths that a pass targets are those of all entries that it runs, declared or found by name, at
any level of nesting. `inside` stands for what the nested mappers target: it takes the tag of a
nested mapper, and the source, the target and the open passes that it is run with.

Main statement: a pass over a record changes the fields that such a path starts with, and nothing
else. It keeps the shape of the record and the order of its fields; new fields come last.
-/

namespace Remap

/-- A record that is left of another one by stores below fields that the paths start with. -/
structure RecordOf.ChangedAt {α : Type} (paths : List Path) (before after : RecordOf α) : Prop where
  shape : after.shape = before.shape
  /-- The fields are those from before in their order, and then new ones. -/
  order : Fields.names before.fields <+: Fields.names after.fields
  /-- A field that no path starts with is missing, or holds what it held. -/
  elsewhere : ∀ name, (∀ path ∈ paths, path.rootProperty? ≠ some name) →
    after.get? name = before.get? name

namespace RecordOf.ChangedAt

variable {α : Type} {paths more : List Path} {r s t : RecordOf α}

theorem refl (paths : List Path) (r : RecordOf α) : r.ChangedAt paths r :=
  ⟨rfl, List.prefix_rfl, fun _ _ => rfl⟩

theorem append (first : r.ChangedAt paths s) (second : s.ChangedAt more t) :
    r.ChangedAt (paths ++ more) t := by
  refine ⟨second.shape.trans first.shape, first.order.trans second.order, fun name apart => ?_⟩
  rw [second.elsewhere name fun path member => apart path (List.mem_append_right _ member)]
  exact first.elsewhere name fun path member => apart path (List.mem_append_left _ member)

/-- A store to the field that a path starts with. -/
theorem put {path : Path} {name : String} (starts : path.rootProperty? = some name)
    (r : RecordOf α) (a : α) : r.ChangedAt [path] (r.put name a) := by
  refine ⟨rfl, ?_, fun other apart => ?_⟩
  · change Fields.names r.fields <+: Fields.names (Fields.put r.fields name a)
    rw [Fields.names_put]
    split
    · exact List.prefix_rfl
    · exact List.prefix_append _ _
  · have different : other ≠ name := by
      rintro rfl
      exact apart path (List.mem_singleton.mpr rfl) starts
    exact get?_put_of_ne r a different

end RecordOf.ChangedAt

/-- What is left of a value. Nothing is said of values that are no records. -/
def Value.ChangedAt (paths : List Path) (before after : Value) : Prop :=
  ∀ r, before = .record r → ∃ s, after = .record s ∧ r.ChangedAt paths s

namespace Value.ChangedAt

variable {paths more : List Path} {u v w : Value}

theorem refl (paths : List Path) (v : Value) : v.ChangedAt paths v :=
  fun r equal => ⟨r, equal, .refl paths r⟩

theorem append (first : u.ChangedAt paths v) (second : v.ChangedAt more w) :
    u.ChangedAt (paths ++ more) w := by
  intro r equal
  obtain ⟨s, equal', changed⟩ := first r equal
  obtain ⟨t, equal'', changed'⟩ := second s equal'
  exact ⟨t, equal'', changed.append changed'⟩

end Value.ChangedAt

/-- A write that lands changes its root at the path. -/
theorem Path.Lands.changedAt {instantiate : FieldType → Value} {path : Path} {root : Value}
    {place : Place} (lands : Lands instantiate path.segments root place) (w : Value) :
    root.ChangedAt [path] (place.store w) := by
  obtain ⟨text, segments⟩ := path
  intro r equal
  cases lands with
  | field | underField =>
    cases equal
    exact ⟨_, rfl, .put rfl _ _⟩
  | item | underItem => cases equal

/-- Every run changes its target at the paths that it is said to target. -/
def NestedMapper.StaysWithin (targets : (source target : Value) → Scope → List Path)
    (mapper : NestedMapper) : Prop :=
  ∀ (source target : Value) (scope : Scope), target.ChangedAt (targets source target scope)
    ((mapper.run source target).run scope).1.2

namespace Pass

/-- The nested mapper that an entry hands the target to, and the source it runs on. There is none
if the guard does not hold or there is nothing to map. -/
def handed? [Regex.Engine] (pass : Pass) (target : Value) (e : Entry) :
    Option (NestedMapper × Value) :=
  match pass.applies target e.condition with
  | .ok true =>
    match e.action with
    | .fanOut source mapper =>
      match pass.read source with
      | .ok v => if v.isNull then none else some (mapper, v)
      | .error _ => none
    | .whole _ mapper => some (mapper, pass.source)
    | .field .. => none
    | .assembled .. => none
  | _ => none

variable (inside : Nat → (source target : Value) → Scope → List Path) (pass : Pass) (auto : Bool)

/-- The paths that an entry targets: its own one, or those of the nested mapper that it runs. -/
def targets [Regex.Engine] (e : Entry) (target : Value) (scope : Scope) : List Path :=
  match e.action.path? with
  | some path => [path]
  | none =>
    match pass.handed? target e with
    | some (mapper, v) => inside mapper.tag v target scope
    | none => []

/-- The paths that entries target when they are run in order. -/
def allTargets [Regex.Engine] : List Entry → Value → Scope → List Path
  | [], _, _ => []
  | e :: rest, target, scope =>
    let ran := (pass.runEntry auto e target).run scope
    pass.targets inside e target scope ++ allTargets rest ran.1.2 ran.2

variable {inside pass auto}

/-- Only the nested mapper of its action is what an entry hands the target to. -/
theorem mapper?_of_handed? [Regex.Engine] {e : Entry} {target : Value} {call : NestedMapper × Value}
    (handed : pass.handed? target e = some call) : e.action.mapper? = some call.1 := by
  unfold handed? at handed
  split at handed
  · cases action : e.action with
    | field | assembled =>
      rw [action] at handed
      cases handed
    | whole claimed mapper =>
      rw [action] at handed
      cases handed
      rfl
    | fanOut source mapper =>
      simp only [action] at handed
      split at handed
      · split at handed
        · cases handed
        · cases handed
          rfl
      · cases handed
  · cases handed

theorem target_runNested (mapper : NestedMapper) (source v target : Value) (scope : Scope) :
    ((runNested mapper source v target).run scope).1.2 =
      ((mapper.run source target).run scope).1.2 := by
  rw [runNested, Scoped.run_bind]
  cases (mapper.run source target).run scope with
  | mk left after =>
    obtain ⟨verdict, last⟩ := left
    cases verdict <;> rfl

/-- An entry that writes to no path leaves the target as the nested mapper leaves it, and as it was
if none is run. -/
theorem target_runEntry_of_path?_eq_none [Regex.Engine] {e : Entry}
    (pathless : e.action.path? = none) (target : Value) (scope : Scope) :
    ((pass.runEntry auto e target).run scope).1.2 =
      match pass.handed? target e with
      | some (mapper, v) => ((mapper.run v target).run scope).1.2
      | none => target := by
  unfold runEntry outcomeOf handed?
  cases pass.applies target e.condition with
  | error error => rfl
  | ok holds =>
    cases holds with
    | false => rfl
    | true =>
      change ((pass.apply target e.action).run scope).1.2 = _
      cases action : e.action with
      | field | assembled =>
        rw [action] at pathless
        cases pathless
      | whole claimed mapper => exact target_runNested mapper pass.source .null target scope
      | fanOut source mapper =>
        simp only [apply]
        cases pass.read source with
        | error error => rfl
        | ok v =>
          cases null : v.isNull with
          | true =>
            simp only [null, if_true]
            rfl
          | false =>
            simp only [null, Bool.false_eq_true, if_false]
            exact target_runNested mapper v v target scope

/-- An entry changes the target at the paths that it targets. -/
theorem changedAt_runEntry [Regex.Engine] {e : Entry}
    (within : ∀ mapper, e.action.mapper? = some mapper → mapper.StaysWithin (inside mapper.tag))
    (target : Value) (scope : Scope) :
    target.ChangedAt (pass.targets inside e target scope)
      ((pass.runEntry auto e target).run scope).1.2 := by
  cases writes : e.action.path? with
  | some path =>
    simp only [targets, writes]
    obtain ⟨applied, effect, -⟩ := runEntry_effect pass auto e target scope
    generalize ((pass.runEntry auto e target).run scope).1.2 = after at effect ⊢
    cases effect with
    | guarded | nothing | failed => exact .refl _ _
    | stored path' v w place scope' writes' lands fitted =>
      cases writes.symm.trans writes'
      exact lands.changedAt w
    | nested mapper source v after verdict scope' hands ran =>
      exact absurd hands (Action.mapper?_ne_some writes mapper)
  | none =>
    simp only [targets, writes]
    rw [target_runEntry_of_path?_eq_none writes]
    cases handed : pass.handed? target e with
    | none => exact .refl _ _
    | some call =>
      exact within call.1 (mapper?_of_handed? handed) call.2 target scope

/-- Entries change the target at the paths that they target. -/
theorem changedAt_runEntries [Regex.Engine] {entries : List Entry}
    (within : ∀ e ∈ entries, ∀ mapper, e.action.mapper? = some mapper →
      mapper.StaysWithin (inside mapper.tag)) (target : Value) (scope : Scope) :
    target.ChangedAt (pass.allTargets inside auto entries target scope)
      ((pass.runEntries auto entries target).run scope).1.2 := by
  induction entries generalizing target scope with
  | nil => exact .refl _ _
  | cons e rest ih =>
    exact (changedAt_runEntry (within e List.mem_cons_self) target scope).append
      (ih (fun other member => within other (List.mem_cons_of_mem _ member)) _ _)

end Pass

namespace FieldMapper

variable [Regex.Engine]

/-- The paths that a pass targets: those of the declared entries, and then those of the entries
found by name. -/
def targets (inside : Nat → (source target : Value) → Scope → List Path) (m : FieldMapper)
    (source target : Value) (scope : Scope) : List Path :=
  let pass := m.passOver source
  let declared := m.runDeclared source target scope
  pass.allTargets inside false m.entries target (scope.enter source.key.text) ++
    pass.allTargets inside true (m.found source target scope) declared.1.2 declared.2

variable {inside : Nat → (source target : Value) → Scope → List Path} {m : FieldMapper}

/-- A pass changes the target at the paths that it targets. -/
theorem changedAt_run
    (within : ∀ e ∈ m.entries, ∀ mapper, e.action.mapper? = some mapper →
      mapper.StaysWithin (inside mapper.tag)) (source target : Value) (scope : Scope) :
    target.ChangedAt (m.targets inside source target scope)
      ((m.run source target).run scope).1.2 := by
  have copied : ∀ e ∈ m.found source target scope, ∀ mapper, e.action.mapper? = some mapper →
      mapper.StaysWithin (inside mapper.tag) := by
    intro e member mapper hands
    obtain ⟨name, rfl⟩ := exists_copy_of_mem_copies member
    cases hands
  exact (Pass.changedAt_runEntries within target _).append (Pass.changedAt_runEntries copied _ _)

/-- A mapper inside another one changes the target at the paths that its pass targets. -/
theorem staysWithin_nested
    (within : ∀ e ∈ m.entries, ∀ mapper, e.action.mapper? = some mapper →
      mapper.StaysWithin (inside mapper.tag)) (tag : Nat) :
    (m.nested tag).StaysWithin (m.targets inside) := by
  intro source target scope
  simp only [nested, mapInto]
  cases missing? source target with
  | some role => exact .refl _ _
  | none => exact changedAt_run within source target scope

/-- A mapper inside another one leaves the target as its pass leaves it. -/
theorem target_nested (m : FieldMapper) {source target : Value} (hasSource : source.isNull = false)
    (hasTarget : target.isNull = false) (tag : Nat) (scope : Scope) :
    (((m.nested tag).run source target).run scope).1.2 =
      ((m.run source target).run scope).1.2 := by
  simp only [nested, mapInto, missing?, hasSource, hasTarget, Bool.false_eq_true, if_false]
  rfl

end FieldMapper

end Remap
