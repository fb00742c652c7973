import Remap.Proofs.Definition.Rules

/-!
# Induction over definitions

A mapper is built from a definition rule by rule, and a definition inside a rule is built in the
same way. So a property of mappers holds of every built mapper if the mapper without rules has it
and each rule keeps it, given that the mapper of the definition inside the rule has it. What is
required of rules has to pass on to the rules of a definition inside.
-/

namespace Remap

/-- The definition inside a rule. -/
def RuleOf.mapping? {δ : Type} : RuleOf δ → Option δ
  | .fanOut _ mapping _ => some mapping
  | .multiSource _ mapping _ => some mapping
  | .nested mapping => some mapping
  | .field .. => none
  | .assemble .. => none
  | .nestedFields .. => none

/-- A definition by which a rule maps onto the target is the one inside it. -/
theorem RuleOf.mapping?_of_inside? {δ : Type} {rule : RuleOf δ} {mapping : δ}
    (inside : rule.inside? = some mapping) : rule.mapping? = some mapping := by
  cases rule with
  | fanOut | multiSource => exact inside
  | field | assemble | nestedFields | nested => cases inside

namespace Definition

variable [Regex.Engine]

/-- Rules that meet a requirement keep a property of mappers. -/
structure Keeps (types : TypeRegistry) (required : Rule → Prop) (P : FieldMapper → Prop) :
    Prop where
  start : ∀ d, P (frame types d)
  rule : ∀ rule m m' position, required rule → P m → addRule types m position rule = .ok m' →
    (∀ mapping inner, rule.mapping? = some mapping → buildWith types mapping = .ok inner →
      P inner) → P m'
  inside : ∀ rule mapping, required rule → rule.mapping? = some mapping →
    ∀ other ∈ mapping.rules, required other

namespace Keeps

mutual

/-- What rules keep holds of the mapper of a definition whose rules meet the requirement. -/
theorem of_buildWith {types : TypeRegistry} {required : Rule → Prop} {P : FieldMapper → Prop}
    (keeps : Keeps types required P) :
    ∀ {d : Definition} {m : FieldMapper}, (∀ rule ∈ d.rules, required rule) →
      buildWith types d = .ok m → P m
  | ⟨_, _, _, _, _, _, _, _⟩, _, meets, built => by
    rw [buildWith] at built
    exact keeps.of_addRules meets (keeps.start _) built

theorem of_addRules {types : TypeRegistry} {required : Rule → Prop} {P : FieldMapper → Prop}
    (keeps : Keeps types required P) :
    ∀ {rules : List (RuleOf Definition)} {m m' : FieldMapper} {position : Nat},
      (∀ rule ∈ rules, required rule) → P m → addRules types m position rules = .ok m' → P m'
  | [], _, _, _, _, holds, added => by
    cases added
    exact holds
  | rule :: rest, m, _, position, meets, holds, added => by
    rw [addRules] at added
    obtain ⟨between, first, more⟩ := bind_eq_ok.mp added
    have met := meets rule List.mem_cons_self
    have kept : P between := keeps.rule rule m between position met holds first
      fun _ _ inside built => keeps.of_mapping met inside built
    exact keeps.of_addRules (fun other member => meets other (List.mem_cons_of_mem rule member))
      kept more

theorem of_mapping {types : TypeRegistry} {required : Rule → Prop} {P : FieldMapper → Prop}
    (keeps : Keeps types required P) :
    ∀ {rule : RuleOf Definition} {mapping : Definition} {inner : FieldMapper}, required rule →
      rule.mapping? = some mapping → buildWith types mapping = .ok inner → P inner
  | .fanOut source mapping condition, _, _, met, inside, built => by
    have meets := keeps.inside (.fanOut source mapping condition) mapping met rfl
    cases inside
    exact keeps.of_buildWith meets built
  | .multiSource sources mapping condition, _, _, met, inside, built => by
    have meets := keeps.inside (.multiSource sources mapping condition) mapping met rfl
    cases inside
    exact keeps.of_buildWith meets built
  | .nested mapping, _, _, met, inside, built => by
    have meets := keeps.inside (.nested mapping) mapping met rfl
    cases inside
    exact keeps.of_buildWith meets built
  | .field .., _, _, _, inside, _ => by cases inside
  | .assemble .., _, _, _, inside, _ => by cases inside
  | .nestedFields .., _, _, _, inside, _ => by cases inside

end

end Keeps

end Definition

end Remap
