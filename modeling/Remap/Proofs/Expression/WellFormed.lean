import Remap.Expression.Evaluate
import Remap.Proofs.Model.WellFormed

/-!
# Expressions have well-formed values

An expression takes values out of other ones or computes scalars, so where names refer to
well-formed values its value is well-formed.
-/

namespace Remap.Expression

/-- The root and all variables are well-formed. -/
structure Environment.WellFormed (env : Environment) : Prop where
  root : env.root.WellFormed
  bindings : ∀ binding ∈ env.bindings, binding.2.WellFormed

variable {v w : Value}

theorem wellFormed_of_readProperty (formed : v.WellFormed) {name : String}
    (read : readProperty v name = .ok w) : w.WellFormed := by
  cases v with
  | record r =>
    simp only [readProperty] at read
    cases found : r.get? name with
    | some content =>
      rw [found] at read
      cases read
      exact Record.WellFormed.of_get? formed found
    | none =>
      rw [found] at read
      dsimp only at read
      split at read
      · cases read
        exact .null
      · cases read
  | _ => cases read

theorem wellFormed_of_readItem {items : List Value} (each : ∀ v ∈ items, v.WellFormed) {index : Int}
    (read : readItem items index = .ok w) : w.WellFormed := by
  unfold readItem at read
  dsimp only at read
  split at read
  · next found =>
    cases read
    split at found
    · exact each _ (List.mem_of_getElem? found)
    · cases found
  · cases read

theorem wellFormed_of_readIndex (formed : v.WellFormed) {position : Value}
    (read : readIndex v position = .ok w) : w.WellFormed := by
  unfold readIndex at read
  split at read
  · exact wellFormed_of_readItem formed.each_item read
  · exact wellFormed_of_readProperty formed read
  · cases read
  · cases read
  · cases read

theorem wellFormed_of_negateValue (negated : negateValue v = .ok w) : w.WellFormed := by
  unfold negateValue at negated
  split at negated
  · split at negated
    · cases negated
      exact .integer _
    · cases negated
  · cases negated
    exact .decimal _
  · cases negated

theorem wellFormed_of_addValues {left right : Value} (added : addValues left right = .ok w) :
    w.WellFormed := by
  unfold addValues at added
  split at added
  · split at added
    · cases added
      exact .integer _
    · cases added
  · cases added
    exact .string _
  · cases added
    exact .string _
  · split at added
    · cases added
      exact .decimal _
    · cases added

theorem wellFormed_of_subtractValues {left right : Value}
    (subtracted : subtractValues left right = .ok w) : w.WellFormed := by
  unfold subtractValues at subtracted
  split at subtracted
  · split at subtracted
    · cases subtracted
      exact .integer _
    · cases subtracted
  · split at subtracted
    · cases subtracted
      exact .decimal _
    · cases subtracted

/-- An operator that is no sum or difference has a truth value. -/
theorem wellFormed_of_applyOperator {operator : Operator} {left right : Value}
    (applied : applyOperator operator left right = .ok w) : w.WellFormed := by
  cases operator with
  | add => exact wellFormed_of_addValues applied
  | subtract => exact wellFormed_of_subtractValues applied
  | equal | notEqual =>
    cases applied
    exact .boolean _
  | less | lessEqual | greater | greaterEqual =>
    obtain ⟨_, -, applied⟩ := bind_eq_ok.mp applied
    cases applied
    exact .boolean _

/-- The value of an expression is well-formed if all that it can refer to is. -/
theorem Expr.wellFormed_of_evaluate [Regex.Engine] {env : Environment} (formed : env.WellFormed)
    {e : Expr} {v : Value} (evaluated : e.evaluate env = .ok v) : v.WellFormed := by
  induction e generalizing v with
  | literal l =>
    cases evaluated
    cases l with
    | null => exact .null
    | boolean b => exact .boolean b
    | integer n => exact .integer n
    | decimal x => exact .decimal x
    | string s => exact .string s
  | property name => exact wellFormed_of_readProperty formed.root evaluated
  | «variable» name =>
    rw [evaluate] at evaluated
    cases found : Fields.get? env.bindings name with
    | some content =>
      rw [found] at evaluated
      cases evaluated
      exact formed.bindings (name, _) (Fields.mem_of_get? found)
    | none =>
      rw [found] at evaluated
      cases evaluated
  | member target name ih =>
    obtain ⟨content, inner, evaluated⟩ := bind_eq_ok.mp evaluated
    exact wellFormed_of_readProperty (ih inner) evaluated
  | index target position ih _ =>
    obtain ⟨content, inner, evaluated⟩ := bind_eq_ok.mp evaluated
    obtain ⟨_, -, evaluated⟩ := bind_eq_ok.mp evaluated
    exact wellFormed_of_readIndex (ih inner) evaluated
  | not operand _ =>
    obtain ⟨_, -, evaluated⟩ := bind_eq_ok.mp evaluated
    obtain ⟨b, -, evaluated⟩ := bind_eq_ok.mp evaluated
    cases evaluated
    exact .boolean _
  | negate operand _ =>
    obtain ⟨_, -, evaluated⟩ := bind_eq_ok.mp evaluated
    exact wellFormed_of_negateValue evaluated
  | or left right _ _ =>
    obtain ⟨_, -, evaluated⟩ := bind_eq_ok.mp evaluated
    obtain ⟨b, -, evaluated⟩ := bind_eq_ok.mp evaluated
    cases b with
    | true =>
      cases evaluated
      exact .boolean _
    | false =>
      obtain ⟨_, -, evaluated⟩ := bind_eq_ok.mp evaluated
      obtain ⟨_, -, evaluated⟩ := bind_eq_ok.mp evaluated
      cases evaluated
      exact .boolean _
  | and left right _ _ =>
    obtain ⟨_, -, evaluated⟩ := bind_eq_ok.mp evaluated
    obtain ⟨b, -, evaluated⟩ := bind_eq_ok.mp evaluated
    cases b with
    | false =>
      cases evaluated
      exact .boolean _
    | true =>
      obtain ⟨_, -, evaluated⟩ := bind_eq_ok.mp evaluated
      obtain ⟨_, -, evaluated⟩ := bind_eq_ok.mp evaluated
      cases evaluated
      exact .boolean _
  | binary operator left right _ _ =>
    obtain ⟨_, -, evaluated⟩ := bind_eq_ok.mp evaluated
    obtain ⟨_, -, evaluated⟩ := bind_eq_ok.mp evaluated
    exact wellFormed_of_applyOperator evaluated
  | matchesRegex subject regex _ =>
    obtain ⟨_, -, evaluated⟩ := bind_eq_ok.mp evaluated
    obtain ⟨text, -, evaluated⟩ := bind_eq_ok.mp evaluated
    cases text with
    | none | some =>
      cases evaluated
      exact .boolean _
  | matchesDynamic subject pattern _ _ =>
    obtain ⟨_, -, evaluated⟩ := bind_eq_ok.mp evaluated
    obtain ⟨text, -, evaluated⟩ := bind_eq_ok.mp evaluated
    cases text with
    | none =>
      cases evaluated
      exact .boolean _
    | some text =>
      obtain ⟨_, -, evaluated⟩ := bind_eq_ok.mp evaluated
      obtain ⟨_, -, evaluated⟩ := bind_eq_ok.mp evaluated
      cases evaluated
      exact .boolean _

end Remap.Expression
