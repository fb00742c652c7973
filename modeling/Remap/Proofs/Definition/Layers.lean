import Remap.Proofs.Definition.Induction
import Remap.Proofs.Mapping.Kept

/-!
# Built mappers are layered

A definition stands inside another one only as part of a rule, so the nested mappers of the mapper
that it describes were built in the same way.
-/

namespace Remap

variable [Regex.Engine]

theorem FieldMapper.Layered.addEntry {m : FieldMapper} {e : Entry} (layered : m.Layered)
    (new : e.Layered) : (m.addEntry e).Layered := by
  cases layered with
  | intro _ views entries =>
    refine .intro _ (by rw [viewOf_addEntry, views]) ?_
    intro other member
    rcases mem_entries_addEntry member with old | equal
    · exact entries other old
    · rw [equal]
      exact new

namespace Definition

variable {types : TypeRegistry}

/-- A rule keeps a mapper layered if the mapper of the definition inside it is. -/
theorem layered_of_addRule {rule : Rule} {m m' : FieldMapper} {position : Nat}
    (layered : m.Layered) (added : addRule types m position rule = .ok m')
    (below : ∀ mapping inner, rule.inside? = some mapping →
      buildWith types mapping = .ok inner → inner.Layered) : m'.Layered := by
  cases adds_of_addRule added with
  | writes e path writes => exact layered.addEntry (.writes e path writes)
  | hands e mapping inner inside built hands =>
    exact layered.addEntry (.hands e inner position hands (below mapping inner inside built))
  | converts =>
    cases layered with
    | intro _ views entries => exact .intro _ views entries

theorem keeps_layered (types : TypeRegistry) :
    Keeps types (fun _ => True) FieldMapper.Layered where
  start _ := by
    refine .intro _ rfl ?_
    intro e member
    cases member
  rule rule m m' position _ layered added below :=
    layered_of_addRule layered added fun mapping inner inside =>
      below mapping inner (RuleOf.mapping?_of_inside? inside)
  inside _ _ _ _ _ _ := trivial

/-- The mapper of a definition is layered. -/
theorem layered_of_buildWith {d : Definition} {m : FieldMapper}
    (built : buildWith types d = .ok m) : m.Layered :=
  (keeps_layered types).of_buildWith (fun _ _ => trivial) built

theorem layered_of_build {d : Definition} {m : FieldMapper} (built : d.build = .ok m) :
    m.Layered := by
  obtain ⟨types, -, built⟩ := bind_eq_ok.mp built
  exact layered_of_buildWith built

end Definition

end Remap
