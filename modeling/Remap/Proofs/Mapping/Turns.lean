import Remap.Proofs.Mapping.Targets

/-!
# The turn of an entry

When its turn comes, an entry rests, offers a value to a path of the target, or hands the target to
a nested mapper. What it offers and what it hands over depends on the source and on the verdict of
the guard, and no further on the target.

Main statement: running an entry is one of these three, and nothing else.
-/

namespace Remap

namespace Pass

/-- A value through a converter, if there is one. -/
def converted? (converter : Option Converter) (v : Value) : Option Value :=
  match converter with
  | none => some v
  | some c => (c.apply v).toOption

variable [Regex.Engine]

/-- The value that an entry offers to a path, as far as it gets that far. -/
def offered? (pass : Pass) (target : Value) (e : Entry) : Option (Path × Value) :=
  match pass.applies target e.condition with
  | .ok true =>
    match e.action with
    | .field source path converter =>
      match pass.read source with
      | .ok v => (converted? converter v).map fun w => (path, w)
      | .error _ => none
    | .assembled sources path assembler =>
      match pass.gather sources with
      | .ok parts => (converted? (some assembler) (.record parts)).map fun w => (path, w)
      | .error _ => none
    | .fanOut .. => none
    | .whole .. => none
  | _ => none

/-- The result of an entry for what was applied. -/
def report (auto : Bool) (e : Entry) (applied : Applied) : MappingResult × Value :=
  (⟨e.sourceLabel, e.targetLabel, auto, outcome (severity auto) applied.1⟩, applied.2)

/-- What running an entry is. -/
inductive Turn (pass : Pass) (auto : Bool) (e : Entry) (target : Value) :
    Scoped (MappingResult × Value) → Prop
  /-- The guard does not hold, there is nothing to map, or something fails on the way. -/
  | rests (result : MappingResult) (nothing : pass.offered? target e = none)
      (nobody : pass.handed? target e = none) : Turn pass auto e target (pure (result, target))
  /-- A value is written to a path. -/
  | offers (path : Path) (v : Value) (offered : pass.offered? target e = some (path, v)) :
      Turn pass auto e target (report auto e <$> pass.write path v target)
  /-- A nested mapper is run on the target. -/
  | hands (mapper : NestedMapper) (source v : Value)
      (handed : pass.handed? target e = some (mapper, source)) :
      Turn pass auto e target (report auto e <$> runNested mapper source v target)

variable {pass : Pass} {auto : Bool} {e : Entry} {target : Value}

/-- What an action gets to write is offered, and then it is written. -/
theorem turn_of_convertAndWrite {converter : Option Converter} {path : Path} {v : Value}
    (offers : pass.offered? target e = (converted? converter v).map fun w => (path, w))
    (nobody : pass.handed? target e = none) :
    Turn pass auto e target
      (report auto e <$> pass.convertAndWrite converter path v target) := by
  cases converter with
  | none => exact .offers path v offers
  | some c =>
    simp only [convertAndWrite, converted?] at offers ⊢
    cases applied : c.apply v with
    | error error => exact .rests _ (by rw [offers, applied]; rfl) nobody
    | ok w => exact .offers path w (by rw [offers, applied]; rfl)

/-- Running an entry is one of the turns. -/
theorem turn (pass : Pass) (auto : Bool) (e : Entry) (target : Value) :
    Turn pass auto e target (pass.runEntry auto e target) := by
  unfold runEntry outcomeOf
  cases verdict : pass.applies target e.condition with
  | error error =>
    exact .rests _ (by simp only [offered?, verdict]) (by simp only [handed?, verdict])
  | ok holds =>
    cases holds with
    | false => exact .rests _ (by simp only [offered?, verdict]) (by simp only [handed?, verdict])
    | true =>
      change Turn pass auto e target (report auto e <$> pass.apply target e.action)
      cases action : e.action with
      | field source path converter =>
        have nobody : pass.handed? target e = none := by simp only [handed?, verdict, action]
        simp only [apply]
        cases read : pass.read source with
        | error error => exact .rests _ (by simp only [offered?, verdict, action, read]) nobody
        | ok v =>
          exact turn_of_convertAndWrite (by simp only [offered?, verdict, action, read]) nobody
      | assembled sources path assembler =>
        have nobody : pass.handed? target e = none := by simp only [handed?, verdict, action]
        simp only [apply]
        cases gathered : pass.gather sources with
        | error error => exact .rests _ (by simp only [offered?, verdict, action, gathered]) nobody
        | ok parts =>
          exact turn_of_convertAndWrite (by simp only [offered?, verdict, action, gathered]) nobody
      | whole claimed mapper =>
        exact .hands mapper pass.source .null (by simp only [handed?, verdict, action])
      | fanOut source mapper =>
        have nothing : pass.offered? target e = none := by simp only [offered?, verdict, action]
        simp only [apply]
        cases read : pass.read source with
        | error error =>
          exact .rests _ nothing (by simp only [handed?, verdict, action, read])
        | ok v =>
          have handed : pass.handed? target e = if v.isNull then none else some (mapper, v) := by
            simp only [handed?, verdict, action, read]
          dsimp only
          split
          · next null => exact .rests _ nothing (by rw [handed, if_pos null])
          · next present => exact .hands mapper v v (by rw [handed, if_neg present])

/-- What an entry offers depends on the target through the guard alone. -/
theorem offered?_eq_of_applies {other : Value}
    (same : pass.applies other e.condition = pass.applies target e.condition) :
    pass.offered? other e = pass.offered? target e := by
  rw [offered?, offered?, same]

/-- What an entry hands the target to depends on the target through the guard alone. -/
theorem handed?_eq_of_applies {other : Value}
    (same : pass.applies other e.condition = pass.applies target e.condition) :
    pass.handed? other e = pass.handed? target e := by
  rw [handed?, handed?, same]

/-- Only the path of its action is what an entry offers a value to. -/
theorem path?_of_offered? {path : Path} {v : Value}
    (offered : pass.offered? target e = some (path, v)) : e.action.path? = some path := by
  unfold offered? at offered
  split at offered
  · split at offered
    · next action =>
      split at offered
      · obtain ⟨w, -, equal⟩ := Option.map_eq_some_iff.mp offered
        cases equal
        rw [action]
        rfl
      · cases offered
    · next action =>
      split at offered
      · obtain ⟨w, -, equal⟩ := Option.map_eq_some_iff.mp offered
        cases equal
        rw [action]
        rfl
      · cases offered
    · cases offered
    · cases offered
  · cases offered

/-- No entry offers a value and hands the target over. -/
theorem not_handed_of_offered {path : Path} {v : Value} {call : NestedMapper × Value}
    (offered : pass.offered? target e = some (path, v)) : pass.handed? target e ≠ some call :=
  fun handed =>
    absurd (mapper?_of_handed? handed) (Action.mapper?_ne_some (path?_of_offered? offered) call.1)

/-- An entry that offers nothing and hands nothing over rests. -/
theorem runEntry_of_rest (auto : Bool) (nothing : pass.offered? target e = none)
    (nobody : pass.handed? target e = none) :
    ∃ result, pass.runEntry auto e target = pure (result, target) := by
  have turn := pass.turn auto e target
  generalize pass.runEntry auto e target = ran at turn
  cases turn with
  | rests result => exact ⟨result, rfl⟩
  | offers path v offered => cases nothing.symm.trans offered
  | hands mapper source v handed => cases nobody.symm.trans handed

/-- An entry that offers a value writes it. -/
theorem runEntry_of_offered (auto : Bool) {path : Path} {v : Value}
    (offered : pass.offered? target e = some (path, v)) :
    pass.runEntry auto e target = report auto e <$> pass.write path v target := by
  have turn := pass.turn auto e target
  generalize pass.runEntry auto e target = ran at turn
  cases turn with
  | rests result nothing => cases nothing.symm.trans offered
  | hands mapper source v' handed => exact absurd handed (not_handed_of_offered offered)
  | offers path' v' also =>
    cases offered.symm.trans also
    rfl

/-- An entry that hands the target over runs the nested mapper on it. -/
theorem runEntry_of_handed (auto : Bool) {mapper : NestedMapper} {source : Value}
    (handed : pass.handed? target e = some (mapper, source)) :
    ∃ v, pass.runEntry auto e target = report auto e <$> runNested mapper source v target := by
  have turn := pass.turn auto e target
  generalize pass.runEntry auto e target = ran at turn
  cases turn with
  | rests result nothing nobody => cases nobody.symm.trans handed
  | offers path v offered => exact absurd handed (not_handed_of_offered offered)
  | hands mapper' source' v also =>
    cases handed.symm.trans also
    exact ⟨v, rfl⟩

end Pass

end Remap
