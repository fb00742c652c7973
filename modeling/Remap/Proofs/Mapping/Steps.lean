import Remap.Proofs.Mapping.Effect
import Remap.Regex.Reader

/-!
# A pass step by step

A pass runs its entries one after the other. `Step` keeps, for each of them, the passes that were
open and the result; `Leads` says that steps take one target to another. What every step keeps,
the pass keeps.

Main statement: a value that a pass reports as mapped is found in the final target, as fitted to
its place, unless a later success went to the same place or near it.
-/

namespace Remap

/-- One entry of a pass as it was run. -/
structure Step where
  entry : Entry
  /-- The passes that were open. -/
  scope : Scope
  result : MappingResult

namespace Pass

variable [Regex.Engine]

/-- The steps of entries that are run in order. -/
def steps (pass : Pass) (auto : Bool) : List Entry → Value → Scope → List Step
  | [], _, _ => []
  | e :: rest, target, scope =>
    let ran := (pass.runEntry auto e target).run scope
    ⟨e, scope, ran.1.1⟩ :: pass.steps auto rest ran.1.2 ran.2

/-- The steps take a target and the open passes to others. -/
inductive Leads (pass : Pass) : Value → Scope → List Step → Value → Scope → Prop
  | done (target : Value) (scope : Scope) : Leads pass target scope [] target scope
  | next (step : Step) {target after last : Value} {scope' scope'' : Scope} {rest : List Step}
      (ran : (pass.runEntry step.result.auto step.entry target).run step.scope =
        ((step.result, after), scope'))
      (more : Leads pass after scope' rest last scope'') :
      Leads pass target step.scope (step :: rest) last scope''

variable {pass : Pass}

theorem map_result_steps (auto : Bool) (entries : List Entry) (target : Value) (scope : Scope) :
    (pass.steps auto entries target scope).map (·.result) =
      ((pass.runEntries auto entries target).run scope).1.1 := by
  induction entries generalizing target scope with
  | nil => rfl
  | cons e rest ih =>
    simp only [steps, List.map_cons, ih]
    rfl

theorem map_entry_steps (auto : Bool) (entries : List Entry) (target : Value) (scope : Scope) :
    (pass.steps auto entries target scope).map (·.entry) = entries := by
  induction entries generalizing target scope with
  | nil => rfl
  | cons e rest ih => simp only [steps, List.map_cons, ih]

/-- There is one result for each entry, which carries the labels of the entry. -/
theorem labels_runEntries (pass : Pass) (auto : Bool) (entries : List Entry) (target : Value)
    (scope : Scope) :
    ((pass.runEntries auto entries target).run scope).1.1.map
        (fun r => (r.source, r.target, r.auto)) =
      entries.map fun e => (e.sourceLabel, e.targetLabel, auto) := by
  induction entries generalizing target scope with
  | nil => rfl
  | cons e rest ih =>
    rw [List.map_cons, ← ih]
    rfl

theorem leads_steps (auto : Bool) (entries : List Entry) (target : Value) (scope : Scope) :
    pass.Leads target scope (pass.steps auto entries target scope)
      ((pass.runEntries auto entries target).run scope).1.2
      ((pass.runEntries auto entries target).run scope).2 := by
  induction entries generalizing target scope with
  | nil => exact .done target scope
  | cons e rest ih =>
    exact .next ⟨e, scope, ((pass.runEntry auto e target).run scope).1.1⟩ rfl (ih _ _)

theorem Leads.append {target middle last : Value} {scope scope' scope'' : Scope}
    {steps more : List Step} (first : pass.Leads target scope steps middle scope')
    (second : pass.Leads middle scope' more last scope'') :
    pass.Leads target scope (steps ++ more) last scope'' := by
  induction first with
  | done => exact second
  | next step ran _ ih => exact .next step ran (ih second)

theorem Leads.split {target last : Value} {scope scope'' : Scope} {more : List Step} :
    ∀ {steps : List Step}, pass.Leads target scope (steps ++ more) last scope'' →
      ∃ middle scope', pass.Leads target scope steps middle scope' ∧
        pass.Leads middle scope' more last scope'' := by
  intro steps
  induction steps generalizing target scope with
  | nil => exact fun leads => ⟨target, scope, .done target scope, leads⟩
  | cons step rest ih =>
    intro leads
    cases leads with
    | next _ ran leads =>
      obtain ⟨middle, scope', first, second⟩ := ih leads
      exact ⟨middle, scope', .next step ran first, second⟩

/-- A step has the effect of its entry and reports it. -/
theorem effect_of_ran {auto : Bool} {e : Entry} {target after : Value} {scope scope' : Scope}
    {result : MappingResult}
    (ran : (pass.runEntry auto e target).run scope = ((result, after), scope')) :
    ∃ applied, Effect pass e target scope applied after ∧
      result.outcome = outcome (severity auto) applied := by
  obtain ⟨applied, effect, report⟩ := runEntry_effect pass auto e target scope
  rw [ran] at effect report
  exact ⟨applied, effect, congrArg ResultOf.outcome report⟩

/-- A step that succeeds at a path leaves there what its value was fitted to. -/
theorem holds_of_success {auto : Bool} {e : Entry} {target after v : Value} {scope scope' : Scope}
    {result : MappingResult} {path : Path}
    (ran : (pass.runEntry auto e target).run scope = ((result, after), scope'))
    (writes : e.action.path? = some path) (success : result.outcome = .success v) :
    ∃ t w fitScope, Path.Holds pass.coercer.instantiate path.segments after t w ∧
      (pass.coercer.coerce v t).run.run scope = (.ok w, fitScope) := by
  obtain ⟨applied, effect, report⟩ := effect_of_ran ran
  rw [success] at report
  cases effect with
  | guarded | nothing | failed => cases report
  | stored path' v' w place fitScope writes' lands fitted =>
    cases report
    cases writes.symm.trans writes'
    exact ⟨place.declared, w, fitScope, lands.holds_store w, fitted⟩
  | nested mapper source v' after verdict fitScope hands _ =>
    exact absurd hands (Action.mapper?_ne_some writes mapper)

/-- A step that writes to a diverging path, or fails, leaves what a place holds. -/
theorem holds_of_ran {auto : Bool} {e : Entry} {target after v : Value} {scope scope' : Scope}
    {result : MappingResult} {path : Path} {segments : List Segment} {t : FieldType}
    (ran : (pass.runEntry auto e target).run scope = ((result, after), scope'))
    (writes : e.action.path? = some path)
    (apart : result.isSuccess = true → Path.Diverge segments path.segments)
    (held : Path.Holds pass.coercer.instantiate segments target t v) :
    Path.Holds pass.coercer.instantiate segments after t v := by
  obtain ⟨applied, effect, report⟩ := effect_of_ran ran
  cases effect with
  | guarded | nothing | failed => exact held
  | stored path' v' w place fitScope writes' lands fitted =>
    cases writes.symm.trans writes'
    have success : result.isSuccess = true := by
      unfold ResultOf.isSuccess
      rw [report]
      rfl
    exact held.store_of_diverge lands (apart success) w
  | nested mapper source v' after verdict fitScope hands _ =>
    exact absurd hands (Action.mapper?_ne_some writes mapper)

/-- Steps that write to diverging paths, or fail, leave what a place holds. -/
theorem Leads.holds {target last v : Value} {scope scope' : Scope} {steps : List Step}
    {segments : List Segment} {t : FieldType} (leads : pass.Leads target scope steps last scope')
    (placed : ∀ step ∈ steps, ∃ path, step.entry.action.path? = some path)
    (apart : ∀ step ∈ steps, step.result.isSuccess = true →
      ∀ path, step.entry.action.path? = some path → Path.Diverge segments path.segments)
    (held : Path.Holds pass.coercer.instantiate segments target t v) :
    Path.Holds pass.coercer.instantiate segments last t v := by
  induction leads with
  | done => exact held
  | next step ran more ih =>
    obtain ⟨path, writes⟩ := placed step List.mem_cons_self
    refine ih (fun s member => placed s (List.mem_cons_of_mem _ member))
      (fun s member => apart s (List.mem_cons_of_mem _ member)) ?_
    exact holds_of_ran ran writes
      (fun success => apart step List.mem_cons_self success path writes) held

end Pass

namespace FieldMapper

/-- For a source and a target that are there, the results are those of a pass. -/
theorem run_mapWithResults [Regex.Engine] (m : FieldMapper) {source target : Value}
    (hasSource : source.isNull = false) (hasTarget : target.isNull = false) (scope : Scope) :
    (m.mapWithResults source target).run scope =
      (.ok ((m.run source target).run scope).1, ((m.run source target).run scope).2) := by
  simp only [mapWithResults, missing?, hasSource, hasTarget, Bool.false_eq_true, if_false]
  rfl

/-- The run of the declared entries of a pass. -/
def runDeclared [Regex.Engine] (m : FieldMapper) (source target : Value) (scope : Scope) :
    (List MappingResult × Value) × Scope :=
  ((m.passOver source).runEntries false m.entries target).run (scope.enter source.key.text)

/-- The entries that a pass finds by name once the declared ones have run. -/
def found [Regex.Engine] (m : FieldMapper) (source target : Value) (scope : Scope) : List Entry :=
  m.copies ((m.viewOf source).fieldNames source) (m.viewOf target)
    (m.runDeclared source target scope).1.2

/-- The steps of a pass. -/
def steps [Regex.Engine] (m : FieldMapper) (source target : Value) (scope : Scope) : List Step :=
  (m.passOver source).steps false m.entries target (scope.enter source.key.text) ++
    (m.passOver source).steps true (m.found source target scope)
      (m.runDeclared source target scope).1.2 (m.runDeclared source target scope).2

/-- A pass leads from its target to the one it leaves, and its results are those of its steps. -/
theorem run_leads [Regex.Engine] (m : FieldMapper) (source target : Value) (scope : Scope) :
    ∃ last scope',
      (m.run source target).run scope =
          (((m.steps source target scope).map (·.result), last), scope'.leave) ∧
        (m.passOver source).Leads target (scope.enter source.key.text)
          (m.steps source target scope) last scope' := by
  refine ⟨_, _, ?_, (Pass.leads_steps false m.entries target _).append (Pass.leads_steps true _ _ _)⟩
  rw [steps, List.map_append, Pass.map_result_steps, Pass.map_result_steps]
  rfl

theorem map_entry_steps [Regex.Engine] (m : FieldMapper) (source target : Value) (scope : Scope) :
    (m.steps source target scope).map (·.entry) = m.entries ++ m.found source target scope := by
  rw [steps, List.map_append, Pass.map_entry_steps, Pass.map_entry_steps]

/-- An entry that is found by name copies a field. -/
theorem exists_copy_of_mem_copies {m : FieldMapper} {names : List String} {view : View}
    {target : Value} {e : Entry} (member : e ∈ m.copies names view target) :
    ∃ name, e = Entry.copy name := by
  unfold copies at member
  split at member
  · obtain ⟨name, -, copied⟩ := List.mem_map.mp member
    exact ⟨name, copied.symm⟩
  · cases member

/-- If the declared entries write to paths by themselves, so do all steps. -/
theorem exists_path_of_mem_steps [Regex.Engine] {m : FieldMapper}
    (placed : ∀ e ∈ m.entries, e.action.path?.isSome = true) {source target : Value} {scope : Scope}
    {step : Step} (member : step ∈ m.steps source target scope) :
    ∃ path, step.entry.action.path? = some path := by
  have entry : step.entry ∈ m.entries ++ m.found source target scope := by
    rw [← map_entry_steps]
    exact List.mem_map_of_mem member
  rcases List.mem_append.mp entry with declared | copied
  · exact Option.isSome_iff_exists.mp (placed _ declared)
  · obtain ⟨name, equal⟩ := exists_copy_of_mem_copies copied
    exact ⟨.ofProperty name, by rw [equal]; rfl⟩

/-- No update is lost. In a pass whose declared entries write to paths by themselves, a value that
is reported as mapped to a path is read there from the final target, as fitted to the type that
the place is declared with, if every later success went to a diverging path. -/
theorem mapWithResults_holds_success [Regex.Engine] (m : FieldMapper) (source target : Value)
    (scope : Scope)
    (placed : ∀ e ∈ m.entries, e.action.path?.isSome = true) (hasSource : source.isNull = false)
    (hasTarget : target.isNull = false) (earlier later : List Step) (step : Step) (path : Path)
    (v : Value) (split : m.steps source target scope = earlier ++ step :: later)
    (writes : step.entry.action.path? = some path) (success : step.result.outcome = .success v)
    (apart : ∀ other ∈ later, other.result.isSuccess = true →
      ∀ q, other.entry.action.path? = some q → Path.Diverge path.segments q.segments) :
    ∃ last scope' t w fitScope,
      (m.mapWithResults source target).run scope =
          (.ok ((m.steps source target scope).map (·.result), last), scope') ∧
        path.read last = .ok w ∧
        (∃ store, Path.Lands m.coercer.instantiate path.segments last ⟨t, store⟩) ∧
        (m.coercer.coerce v t).run.run step.scope = (.ok w, fitScope) ∧
        (t.accepts v = true → w = v) := by
  obtain ⟨last, scope', ran, leads⟩ := m.run_leads source target scope
  have paths : ∀ other ∈ later, ∃ q, other.entry.action.path? = some q := by
    intro other member
    have among : other ∈ m.steps source target scope := by
      rw [split]
      exact List.mem_append_right _ (List.mem_cons_of_mem _ member)
    exact exists_path_of_mem_steps placed among
  rw [split] at leads
  obtain ⟨before, _, -, leads⟩ := leads.split
  cases leads with
  | next _ stepped more =>
    obtain ⟨t, w, fitScope, stored, fitted⟩ := Pass.holds_of_success stepped writes success
    have held := more.holds paths apart stored
    refine ⟨last, scope'.leave, t, w, fitScope, ?_, held.read, held.lands, fitted, ?_⟩
    · rw [m.run_mapWithResults hasSource hasTarget, ran]
    · intro accepted
      have kept : m.coercer.coerce v t = pure v := coerceWith_of_accepts accepted
      change (m.coercer.coerce v t).run.run step.scope = _ at fitted
      rw [kept] at fitted
      cases fitted
      rfl

end FieldMapper

namespace Shipment

/-- The step that copies the port. -/
def portStep : Step :=
  ⟨Entry.copy "port", ["record"], ⟨"port", "port", false, .success (.string "Perth")⟩⟩

/-- After the port, packing the cargo fails and the date is copied. -/
theorem map_steps_after_port :
    ((shipping.steps order shipment []).drop 1).map
        (fun step => (step.result.isSuccess, step.entry.action.path?)) =
      [(false, some (Path.ofProperty "cargo")), (true, some (Path.ofProperty "date"))] := by
  decide

/-- The port is reported as mapped, and the steps after it do not undo that. -/
theorem mapWithResults_holds_port :
    shipping.steps order shipment [] =
        [] ++ portStep :: (shipping.steps order shipment []).drop 1 ∧
      ∃ last scope' t w fitScope,
        (shipping.mapWithResults order shipment).run [] =
            (.ok ((shipping.steps order shipment []).map (·.result), last), scope') ∧
          (Path.ofProperty "port").read last = .ok w ∧
          (∃ store, Path.Lands shipping.coercer.instantiate [.property "port"] last ⟨t, store⟩) ∧
          (shipping.coercer.coerce (.string "Perth") t).run.run portStep.scope =
            (.ok w, fitScope) ∧
          (t.accepts (.string "Perth") = true → w = .string "Perth") := by
  refine ⟨rfl, FieldMapper.mapWithResults_holds_success shipping order shipment [] (by decide) rfl
    rfl [] ((shipping.steps order shipment []).drop 1) portStep (.ofProperty "port")
    (.string "Perth") rfl rfl rfl ?_⟩
  intro other member success path writes
  have shown : (other.result.isSuccess, other.entry.action.path?) ∈
      [(false, some (Path.ofProperty "cargo")), (true, some (Path.ofProperty "date"))] := by
    rw [← map_steps_after_port]
    exact List.mem_map_of_mem member
  rw [success, writes] at shown
  have date : path = .ofProperty "date" := by simpa using shown
  rw [date]
  exact .here (by decide) _ _

end Shipment

end Remap
