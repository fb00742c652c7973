import Remap.Proofs.Definition.Induction
import Remap.Proofs.Mapping.Nesting

/-!
# Built mappers are trees

What a built mapper reaches was built as well: its nested mappers come of the definitions inside its
rules, and its converters are the standard ones and such nested mappers.

Main statement: a built mapper leaves the open passes as it found them.
-/

namespace Remap

variable [Regex.Engine]

theorem FieldMapper.Rooted.addEntry {m : FieldMapper} {e : Entry} (rooted : m.Rooted)
    (new : ∀ mapper, e.action.mapper? = some mapper → mapper.Tree) : (m.addEntry e).Rooted where
  entries other member mapper hands := by
    rcases mem_entries_addEntry member with old | rfl
    · exact rooted.entries other old mapper hands
    · exact new mapper hands
  converters := by
    rw [conversions_addEntry]
    exact rooted.converters

namespace Definition

variable {types : TypeRegistry}

/-- A rule keeps a mapper rooted if the mapper of the definition inside it is. -/
theorem rooted_of_addRule {rule : Rule} {m m' : FieldMapper} {position : Nat} (rooted : m.Rooted)
    (added : addRule types m position rule = .ok m')
    (below : ∀ mapping inner, rule.mapping? = some mapping → buildWith types mapping = .ok inner →
      inner.Rooted) : m'.Rooted := by
  cases adds_of_addRule added with
  | writes e path writes =>
    refine rooted.addEntry ?_
    intro mapper hands
    exact absurd hands (Action.mapper?_ne_some writes mapper)
  | hands e mapping inner inside built hands =>
    have innerRooted := below mapping inner (RuleOf.mapping?_of_inside? inside) built
    refine rooted.addEntry ?_
    intro mapper also
    cases hands.symm.trans also
    exact .branch inner position innerRooted.tree
  | converts mapping inner source name nested built keys =>
    have innerRooted := below mapping inner (by rw [nested]; rfl) built
    refine ⟨rooted.entries, rooted.converters.add _ _ ?_⟩
    exact .branch _ _ (.branch inner position innerRooted.tree)

theorem keeps_rooted (types : TypeRegistry) :
    Keeps types (fun _ => True) FieldMapper.Rooted where
  start _ := by
    refine ⟨?_, ConversionRegistry.tree_standard⟩
    intro e member
    cases member
  rule _ _ _ _ _ rooted added below := rooted_of_addRule rooted added below
  inside _ _ _ _ _ _ := trivial

theorem tree_of_build {d : Definition} {m : FieldMapper} (built : d.build = .ok m) : m.Tree := by
  obtain ⟨types, -, builtWith⟩ := bind_eq_ok.mp built
  exact ((keeps_rooted types).of_buildWith (fun _ _ => trivial) builtWith).tree

/-- However a built mapper is run, it leaves the open passes as it found them. -/
theorem balanced_of_build {d : Definition} {m : FieldMapper} (built : d.build = .ok m)
    (source target : Value) :
    (m.map source target).Balanced ∧ (m.mapInto source target).Balanced ∧
      (m.mapWithResults source target).Balanced := by
  have steady := (tree_of_build built).steady
  exact ⟨steady.balanced_map source target, steady.balanced_mapInto source target,
    steady.balanced_mapWithResults source target⟩

end Definition

end Remap
