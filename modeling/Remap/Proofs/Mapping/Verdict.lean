import Remap.Proofs.Mapping.Copies
import Remap.Regex.Reader

/-!
# Reports and verdicts

A pass reports on each of its entries once, in order, whatever became of the entries before. How
much a failure weighs depends on one thing: whether its entry was declared or found by name. So the
policy of a mapper needs no more than the reports to tell whether the pass has failed, and it
decides nothing else.

Main statements: the reports of a pass are those of its entries one by one, and a mapper returns
the target of the pass unless its policy raises the failures among the reports.
-/

namespace Remap

/-! ## How much failures weigh -/

/-- A failure of a declared entry is an error, and a failure of an entry found by name a warning. -/
def MappingResult.Weighed (r : MappingResult) : Prop :=
  ∀ cause weight, r.outcome = .failure cause weight →
    weight = if r.auto then .warning else .error

namespace MappingResult.Weighed

variable {r : MappingResult}

/-- Only declared entries fail with the highest severity, and they do so whenever they fail. -/
theorem isError_iff (weighed : r.Weighed) :
    r.isError = true ↔ r.auto = false ∧ r.isFailure = true := by
  unfold ResultOf.isError ResultOf.isFailure
  cases outcome : r.outcome with
  | success v => simp
  | skipped => simp
  | failure cause weight =>
    have weight_eq := weighed cause weight outcome
    cases auto : r.auto with
    | false =>
      rw [auto] at weight_eq
      subst weight_eq
      simp
    | true =>
      rw [auto] at weight_eq
      subst weight_eq
      simp

end MappingResult.Weighed

namespace Pass

variable {pass : Pass}

theorem weight_of_outcome {auto : Bool} {applied : Except FailureCause (Option Value)}
    {cause : FailureCause} {weight : Severity}
    (failed : outcome (severity auto) applied = .failure cause weight) :
    weight = if auto then .warning else .error := by
  cases applied with
  | error e =>
    cases failed
    rfl
  | ok report =>
    cases report with
    | none => cases failed
    | some v => cases failed

variable [Regex.Engine]

theorem weighed_runEntry (auto : Bool) (e : Entry) (target : Value) (scope : Scope) :
    (((pass.runEntry auto e target).run scope).1.1).Weighed := by
  obtain ⟨applied, -, report⟩ := runEntry_effect pass auto e target scope
  intro cause weight failed
  rw [report] at failed ⊢
  exact weight_of_outcome failed

/-- However the entries before it ended, the failure of an entry weighs what it weighs by itself. -/
theorem weighed_of_mem_runEntries {auto : Bool} {entries : List Entry} {target : Value}
    {scope : Scope} {r : MappingResult}
    (member : r ∈ ((pass.runEntries auto entries target).run scope).1.1) : r.Weighed := by
  rw [← map_result_steps] at member
  obtain ⟨step, stepped, rfl⟩ := List.mem_map.mp member
  clear member
  induction entries generalizing target scope with
  | nil => cases stepped
  | cons e rest ih =>
    rcases List.mem_cons.mp stepped with rfl | later
    · exact weighed_runEntry auto e target scope
    · exact ih later

end Pass

namespace FieldMapper

variable [Regex.Engine]

theorem weighed_of_mem_run {m : FieldMapper} {source target : Value} {scope : Scope}
    {r : MappingResult} (member : r ∈ ((m.run source target).run scope).1.1) : r.Weighed := by
  rcases List.mem_append.mp member with declared | copied
  · exact Pass.weighed_of_mem_runEntries declared
  · exact Pass.weighed_of_mem_runEntries copied

/-! ## One report for each entry -/

theorem mapWithResults_null_source (m : FieldMapper) (target : Value) :
    m.mapWithResults .null target = pure (.error (.missingArgument .source)) := rfl

theorem mapWithResults_null_target (m : FieldMapper) {source : Value}
    (hasSource : source.isNull = false) :
    m.mapWithResults source .null = pure (.error (.missingArgument .target)) := by
  simp only [mapWithResults, missing?, hasSource, Bool.false_eq_true, if_false]
  rfl

/-- A pass reports once on each of its entries and nothing stops it. Each entry, first the declared
ones and then those found by name, is run on the target as the entries before it left it. Its report
carries its labels, and a failure in it weighs what the failure of such an entry weighs. Without a
source or a target there is no pass: the missing one is told, the source first, and the open passes
are never looked at. -/
theorem mapWithResults_reports_once (m : FieldMapper) (source target : Value)
    (hasSource : source.isNull = false) (hasTarget : target.isNull = false) (scope : Scope) :
    (∃ steps results last within after,
      (m.mapWithResults source target).run scope = (.ok (results, last), after) ∧
        (m.passOver source).Leads target (scope.enter source.key.text) steps last within ∧
        steps.map (·.entry) = m.entries ++ m.found source target scope ∧
        steps.map (·.result) = results ∧
        results.map (fun r => (r.source, r.target, r.auto)) =
          m.entries.map (fun e => (e.sourceLabel, e.targetLabel, false)) ++
            (m.found source target scope).map (fun e => (e.sourceLabel, e.targetLabel, true)) ∧
        ∀ r ∈ results, ∀ cause weight, r.outcome = .failure cause weight →
          weight = if r.auto then .warning else .error) ∧
      (∀ other, m.mapWithResults .null other = pure (.error (.missingArgument .source))) ∧
      ∀ given : Value, given.isNull = false →
        m.mapWithResults given .null = pure (.error (.missingArgument .target)) := by
  obtain ⟨last, within, ran, leads⟩ := m.run_leads source target scope
  have labels := m.labels_run source target scope
  have weighed : ∀ r ∈ ((m.run source target).run scope).1.1, r.Weighed :=
    fun r member => weighed_of_mem_run member
  rw [ran] at labels weighed
  refine ⟨⟨m.steps source target scope, _, last, within, within.leave, ?_, leads,
    m.map_entry_steps source target scope, rfl, labels, weighed⟩, m.mapWithResults_null_source,
    fun given present => m.mapWithResults_null_target present⟩
  rw [m.run_mapWithResults hasSource hasTarget, ran]

end FieldMapper

namespace Shipment

/-- A shipment has a report on the port, one on the cargo, which could not be packed, and one on the
date, which was found by name. -/
theorem shipping_reports_once :
    order.isNull = false ∧ shipment.isNull = false ∧
      (∃ steps results last within after,
        (shipping.mapWithResults order shipment).run [] = (.ok (results, last), after) ∧
          (shipping.passOver order).Leads shipment ["record"] steps last within ∧
          steps.map (·.entry) = shipping.entries ++ shipping.found order shipment [] ∧
          steps.map (·.result) = results ∧
          results.map (fun r => (r.source, r.target, r.auto)) =
            [("port", "port", false), ("cargo", "cargo", false), ("date", "date", true)] ∧
          ∀ r ∈ results, ∀ cause weight, r.outcome = .failure cause weight →
            weight = if r.auto then .warning else .error) ∧
      (∀ other, shipping.mapWithResults .null other = pure (.error (.missingArgument .source))) ∧
      ∀ given : Value, given.isNull = false →
        shipping.mapWithResults given .null = pure (.error (.missingArgument .target)) :=
  ⟨rfl, rfl, FieldMapper.mapWithResults_reports_once shipping order shipment rfl rfl []⟩

end Shipment

/-! ## What the policy decides -/

/-- The reports make a pass fail under the policy: under the strictest one any failure does, under
the next one a failure of a declared entry, under the last one nothing. -/
def FailurePolicy.Raises (results : List MappingResult) : FailurePolicy → Prop
  | .raise => ∃ r ∈ results, r.isFailure = true
  | .raiseOnErrors => ∃ r ∈ results, r.auto = false ∧ r.isFailure = true
  | .collect => False

namespace FailurePolicy

variable {results : List MappingResult}

/-- For weighed reports the policy rejects what makes the pass fail. -/
theorem rejects_iff (weighed : ∀ r ∈ results, r.Weighed) (policy : FailurePolicy) :
    policy.rejects results = true ↔ policy.Raises results := by
  cases policy with
  | raise => exact List.any_eq_true
  | collect => exact ⟨Bool.noConfusion, False.elim⟩
  | raiseOnErrors =>
    refine List.any_eq_true.trans (exists_congr fun r => and_congr_right fun member => ?_)
    exact (weighed r member).isError_iff

theorem not_raises_collect : ¬ collect.Raises results := id

/-- What fails a pass that tolerates warnings fails a pass that tolerates nothing. -/
theorem Raises.of_raiseOnErrors (raised : raiseOnErrors.Raises results) : raise.Raises results :=
  raised.imp fun _ found => ⟨found.1, found.2.2⟩

end FailurePolicy

namespace FieldMapper

/-- The mapper with another policy. -/
def withPolicy (m : FieldMapper) (policy : FailurePolicy) : FieldMapper := { m with policy }

variable [Regex.Engine]

/-- For a source and a target that are there, the policy makes the verdict from the reports. -/
theorem run_map (m : FieldMapper) {source target : Value} (hasSource : source.isNull = false)
    (hasTarget : target.isNull = false) (scope : Scope) :
    let ran := (m.run source target).run scope
    (m.map source target).run scope =
      (if m.policy.rejects ran.1.1 then .error (.failures ran.1.1) else .ok ran.1.2, ran.2) := by
  simp only [map, mapInto, missing?, hasSource, hasTarget, Bool.false_eq_true, if_false,
    Scoped.run_bind, Scoped.run_pure]
  split <;> rfl

theorem run_map_of_raises {m : FieldMapper} {source target last : Value} {scope after : Scope}
    {results : List MappingResult} (hasSource : source.isNull = false)
    (hasTarget : target.isNull = false)
    (ran : (m.run source target).run scope = ((results, last), after)) :
    (m.policy.Raises results →
        (m.map source target).run scope = (.error (.failures results), after)) ∧
      (¬ m.policy.Raises results → (m.map source target).run scope = (.ok last, after)) := by
  have weighed : ∀ r ∈ ((m.run source target).run scope).1.1, r.Weighed :=
    fun r member => weighed_of_mem_run member
  rw [m.run_map hasSource hasTarget, ran]
  rw [ran] at weighed
  rw [← FailurePolicy.rejects_iff weighed]
  refine ⟨fun rejected => by rw [if_pos rejected], fun tolerated => by rw [if_neg tolerated]⟩

/-- A mapper that maps under some policy maps under every policy that raises nothing more, onto the
same target. -/
theorem map_ok_of_tolerant {m : FieldMapper} {strict tolerant : FailurePolicy}
    (tolerates : ∀ results, tolerant.Raises results → strict.Raises results)
    {source target last : Value} (hasSource : source.isNull = false)
    (hasTarget : target.isNull = false) {scope after : Scope}
    (mapped : ((m.withPolicy strict).map source target).run scope = (.ok last, after)) :
    ((m.withPolicy tolerant).map source target).run scope = (.ok last, after) := by
  obtain ⟨results, reached, left, ran⟩ :
      ∃ results reached left, (m.run source target).run scope = ((results, reached), left) :=
    ⟨_, _, _, rfl⟩
  have underStrict := run_map_of_raises (m := m.withPolicy strict) hasSource hasTarget ran
  have underTolerant := run_map_of_raises (m := m.withPolicy tolerant) hasSource hasTarget ran
  by_cases raised : strict.Raises results
  · rw [underStrict.1 raised] at mapped
    cases mapped
  · rw [underStrict.2 raised] at mapped
    rw [underTolerant.2 fun tolerated => raised (tolerates results tolerated)]
    exact mapped

/-- The policy decides the verdict and nothing else. A mapper fails with the reports of its pass if
its policy raises the failures among them, and else it returns the target that the pass left. So for
mappers that differ in the policy only, mapping under the strictest one implies mapping under the
next one, which implies mapping under the last one, and the target is the same. -/
theorem map_follows_policy (m : FieldMapper) (source target : Value)
    (hasSource : source.isNull = false) (hasTarget : target.isNull = false) (scope : Scope) :
    (∃ results last after verdict,
      (m.mapWithResults source target).run scope = (.ok (results, last), after) ∧
        (m.map source target).run scope = (verdict, after) ∧
        (verdict = .error (.failures results) ↔ m.policy.Raises results) ∧
        (verdict = .ok last ↔ ¬ m.policy.Raises results)) ∧
      ∀ final after,
        (((m.withPolicy .raise).map source target).run scope = (.ok final, after) →
          ((m.withPolicy .raiseOnErrors).map source target).run scope = (.ok final, after)) ∧
        (((m.withPolicy .raiseOnErrors).map source target).run scope = (.ok final, after) →
          ((m.withPolicy .collect).map source target).run scope = (.ok final, after)) := by
  refine ⟨?_, fun final after => ⟨?_, ?_⟩⟩
  · obtain ⟨results, last, after, ran⟩ :
        ∃ results last after, (m.run source target).run scope = ((results, last), after) :=
      ⟨_, _, _, rfl⟩
    have followed := run_map_of_raises hasSource hasTarget ran
    have reported : (m.mapWithResults source target).run scope = (.ok (results, last), after) := by
      rw [m.run_mapWithResults hasSource hasTarget, ran]
    by_cases raised : m.policy.Raises results
    · exact ⟨results, last, after, _, reported, followed.1 raised, ⟨fun _ => raised, fun _ => rfl⟩,
        ⟨nofun, fun tolerated => absurd raised tolerated⟩⟩
    · exact ⟨results, last, after, _, reported, followed.2 raised,
        ⟨nofun, fun raised' => absurd raised' raised⟩,
        ⟨fun _ => raised, fun _ => rfl⟩⟩
  · exact map_ok_of_tolerant (fun _ raised => .of_raiseOnErrors raised) hasSource hasTarget
  · exact map_ok_of_tolerant
      (fun _ raised => absurd raised FailurePolicy.not_raises_collect) hasSource hasTarget

end FieldMapper

namespace Shipment

/-- The cargo of the order cannot be packed, so that shipping it fails under a policy that tolerates
no errors; under the last one it goes through. -/
theorem shipping_follows_policy :
    order.isNull = false ∧ shipment.isNull = false ∧
      (∃ results last after verdict,
        (shipping.mapWithResults order shipment).run [] = (.ok (results, last), after) ∧
          (shipping.map order shipment).run [] = (verdict, after) ∧
          (verdict = .error (.failures results) ↔ shipping.policy.Raises results) ∧
          (verdict = .ok last ↔ ¬ shipping.policy.Raises results)) ∧
      ∀ final after,
        (((shipping.withPolicy .raise).map order shipment).run [] = (.ok final, after) →
          ((shipping.withPolicy .raiseOnErrors).map order shipment).run [] = (.ok final, after)) ∧
        (((shipping.withPolicy .raiseOnErrors).map order shipment).run [] = (.ok final, after) →
          ((shipping.withPolicy .collect).map order shipment).run [] = (.ok final, after)) :=
  ⟨rfl, rfl, FieldMapper.map_follows_policy shipping order shipment rfl rfl []⟩

end Shipment

end Remap
