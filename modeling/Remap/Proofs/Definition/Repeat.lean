import Remap.Proofs.Definition.Induction
import Remap.Proofs.Mapping.Replay
import Remap.Regex.Reader

/-!
# Mapping again by a definition

A built mapper is settled: its converters are the standard ones and nested mappers that were built
in the same way, and its guards are those that the definition has, at any level. If none of them
looks at the target, what a pass does to the target can be told from the source.

Main statement: a built mapper without guards on the target that maps the same source again leaves
the target as it left it the first time.
-/

namespace Remap

/-- A settled mapper stays settled with an entry if no guard looks at the target then and the nested
mapper of the entry is settled. -/
theorem FieldMapper.Settled.addEntry {types : TypeRegistry} {m : FieldMapper} {e : Entry}
    (settled : m.Settled types)
    (free : ∀ other ∈ (m.addEntry e).entries, ∀ guard, other.condition = some guard →
      "target" ∉ guard.tree.variables)
    (new : ∀ mapper, e.action.mapper? = some mapper → mapper.Settled types) :
    (m.addEntry e).Settled types where
  types_eq := by rw [types_addEntry, settled.types_eq]
  views := by rw [viewOf_addEntry, settled.views]
  converters := by
    rw [conversions_addEntry]
    exact settled.converters
  guards := free
  nested other member mapper hands := by
    rcases mem_entries_addEntry member with old | rfl
    · exact settled.nested other old mapper hands
    · exact new mapper hands

namespace Definition

mutual

/-- The guards of a definition and of all definitions inside it. -/
def guards : Definition → List String
  | ⟨_, _, _, _, _, _, _, rules⟩ => guardsOfRules rules

/-- The guards of rules, one after the other. -/
def guardsOfRules : List (RuleOf Definition) → List String
  | [] => []
  | rule :: rest => guardsOfRule rule ++ guardsOfRules rest

/-- The guard of a rule and those of the definition inside it. -/
def guardsOfRule : RuleOf Definition → List String
  | .field _ _ _ condition => condition.toList
  | .fanOut _ mapping condition => condition.toList ++ guards mapping
  | .multiSource _ mapping condition => condition.toList ++ guards mapping
  | .assemble _ _ _ condition => condition.toList
  | .nestedFields _ _ _ condition => condition.toList
  | .nested mapping => guards mapping

end

/-- A guard that does not look at the target. -/
def SparesTarget [Regex.Engine] (text : String) : Prop :=
  ∀ guard, Expression.parse text = .ok guard → "target" ∉ guard.tree.variables

instance [Regex.Engine] (text : String) : Decidable (SparesTarget text) :=
  match parsed : Expression.parse text with
  | .ok guard =>
    if mentioned : "target" ∈ guard.tree.variables then
      isFalse fun spares => spares guard parsed mentioned
    else
      isTrue fun other also => by
        cases parsed.symm.trans also
        exact mentioned
  | .error _ => isTrue fun other also => by cases parsed.symm.trans also

variable {types : TypeRegistry}

theorem mem_guards_of_mem {d : Definition} {rule : Rule} (member : rule ∈ d.rules) {text : String}
    (guard : text ∈ guardsOfRule rule) : text ∈ d.guards := by
  obtain ⟨_, _, _, _, _, _, _, rules⟩ := d
  rw [guards]
  have among : rule ∈ rules := member
  clear member
  induction rules with
  | nil => cases among
  | cons first rest ih =>
    rw [guardsOfRules]
    rcases List.mem_cons.mp among with rfl | later
    · exact List.mem_append_left _ guard
    · exact List.mem_append_right _ (ih later)

theorem mem_guardsOfRule_of_condition? {rule : Rule} {text : String}
    (condition : rule.condition? = some text) : text ∈ guardsOfRule rule := by
  cases rule with
  | nested => cases condition
  | field | assemble | nestedFields =>
    rw [guardsOfRule]
    exact Option.mem_toList.mpr condition
  | fanOut | multiSource =>
    rw [guardsOfRule]
    exact List.mem_append_left _ (Option.mem_toList.mpr condition)

theorem mem_guardsOfRule_of_mapping? {rule : Rule} {mapping : Definition}
    (inside : rule.mapping? = some mapping) {text : String} (guard : text ∈ mapping.guards) :
    text ∈ guardsOfRule rule := by
  cases rule with
  | field | assemble | nestedFields => cases inside
  | nested =>
    cases inside
    rw [guardsOfRule]
    exact guard
  | fanOut | multiSource =>
    cases inside
    rw [guardsOfRule]
    exact List.mem_append_right _ guard

/-! ## Built mappers are settled -/

/-- No guard of the rule, or of the definition inside it, looks at the target. -/
def RuleSparesTarget [Regex.Engine] (rule : Rule) : Prop :=
    ∀ text ∈ guardsOfRule rule, SparesTarget text

/-- A rule without guards on the target keeps a mapper settled if the mapper of the definition
inside it is. -/
theorem settled_of_addRule [Regex.Engine] {rule : Rule} {m m' : FieldMapper} {position : Nat}
    (spares : RuleSparesTarget rule) (settled : m.Settled types)
    (added : addRule types m position rule = .ok m')
    (below : ∀ mapping inner, rule.mapping? = some mapping → buildWith types mapping = .ok inner →
      inner.Settled types) : m'.Settled types := by
  have free : ∀ e ∈ m'.entries, ∀ guard, e.condition = some guard →
      "target" ∉ guard.tree.variables := by
    intro e member guard guarded
    rcases condition_of_addRule added member with old | read
    · exact settled.guards e old guard guarded
    · rw [guarded] at read
      obtain ⟨text, condition, parsed⟩ := FieldMapper.exists_of_readCondition read
      exact spares text (mem_guardsOfRule_of_condition? condition) guard parsed
  cases adds_of_addRule added with
  | writes e path writes =>
    refine settled.addEntry free ?_
    intro mapper hands
    exact absurd hands (Action.mapper?_ne_some writes mapper)
  | hands e mapping inner inside built hands =>
    refine settled.addEntry free ?_
    intro mapper also
    cases hands.symm.trans also
    have innerSettled := below mapping inner (RuleOf.mapping?_of_inside? inside) built
    exact innerSettled.settled_nested position
  | converts mapping inner source name nested built keys =>
    have innerSettled := below mapping inner (by rw [nested]; rfl) built
    refine ⟨settled.types_eq, settled.views, ?_, free, settled.nested⟩
    exact settled.converters.add _ _ ((innerSettled.settled_nested position).toConverter _)

theorem keeps_settled [Regex.Engine] (types : TypeRegistry) :
    Keeps types RuleSparesTarget (FieldMapper.Settled types) where
  start _ := by
    refine ⟨rfl, rfl, .standard fun f v _ => ⟨f v, rfl⟩, ?_, ?_⟩
    · intro e member
      cases member
    · intro e member
      cases member
  rule _ _ _ _ spares settled added below := settled_of_addRule spares settled added below
  inside _ _ spares inside _ member text guard :=
    spares text (mem_guardsOfRule_of_mapping? inside (mem_guards_of_mem member guard))

/-- Mapping again changes nothing. If a definition builds and none of its guards, at any level,
looks at the target, then its mapper leaves a target as it left it before when it maps the same
source again, also if entries fail in one of the two passes or in both. -/
theorem mapWithResults_idempotent [Regex.Engine] (d : Definition) (m : FieldMapper)
    (built : d.build = .ok m) (spares : ∀ text ∈ d.guards, SparesTarget text)
    (source target : Value) (hasSource : source.isNull = false)
    (hasTarget : target.isNull = false) :
    ∃ results last again,
      m.mapWithResults source target = pure (.ok (results, last)) ∧
        m.mapWithResults source last = pure (.ok (again, last)) := by
  obtain ⟨types, -, builtWith⟩ := bind_eq_ok.mp built
  have settled : m.Settled types :=
    (keeps_settled types).of_buildWith
      (fun rule member text guard => spares text (mem_guards_of_mem member guard)) builtWith
  exact settled.mapWithResults_again hasSource hasTarget

end Definition

namespace Shipment

/-- Labels the hold, puts the cargo in the place of the hold by a definition inside, and labels what
is there then. The last rule leads into the text of a label. -/
def stowing : Definition where
  rules := [
    .field "port" "hold.label" none (some "port != null"),
    .multiSource ["cargo"]
      { rules := [.field "cargo" "hold" none (some "#source.cargo.weight == '3kg'")] } none,
    .field "date" "hold.label" none none,
    .field "port" "hold.label.city" none none]

/-- Stowing an order twice is stowing it once. -/
theorem stowing_idempotent :
    ∃ m, stowing.build = .ok m ∧ (∀ text ∈ stowing.guards, Definition.SparesTarget text) ∧
      order.isNull = false ∧ Value.emptyRecord.isNull = false ∧
      ∃ results last again,
        m.mapWithResults order .emptyRecord = pure (.ok (results, last)) ∧
          m.mapWithResults order last = pure (.ok (again, last)) := by
  have builds : stowing.build.toOption.isSome = true := by decide +kernel
  have spares : ∀ text ∈ stowing.guards, Definition.SparesTarget text := by decide +kernel
  cases built : stowing.build with
  | error e =>
    rw [built] at builds
    cases builds
  | ok m =>
    exact ⟨m, rfl, spares, rfl, rfl,
      Definition.mapWithResults_idempotent stowing m built spares order .emptyRecord rfl rfl⟩

end Shipment

end Remap
