import Remap.Expression.Evaluate
import Remap.Regex.Reader

/-!
# Integer arithmetic

Integer literals, properties that hold integers, negation, sum and difference have an exact value
over the integers without bounds. Evaluation computes every operation on integers that fit in
sixty-four bits, so what it can compute depends on the exact values of all parts and not only on
that of the whole: a sum that leaves the range on the way is not saved by a difference that would
lead back.

Main statement: evaluation gives the exact value if no part leaves the range, and reports an
overflow otherwise.
-/

namespace Remap

namespace Integer

/-- The least integer. -/
def minimum : Integer := ⟨-9223372036854775808, by decide, by decide⟩

/-- The greatest integer. -/
def maximum : Integer := ⟨9223372036854775807, by decide, by decide⟩

/-- The values that integers can have. -/
def InRange (k : Int) : Prop := minimum.val ≤ k ∧ k ≤ maximum.val

instance (k : Int) : Decidable (InRange k) := inferInstanceAs (Decidable (_ ∧ _))

theorem inRange_val (n : Integer) : InRange n.val := ⟨n.minimum_le, n.le_maximum⟩

end Integer

namespace Expression

/-- The expression itself and all that it is made of. -/
def Expr.parts : Expr → List Expr
  | .literal l => [.literal l]
  | .property name => [.property name]
  | .variable name => [.variable name]
  | .member target name => .member target name :: target.parts
  | .index target position => .index target position :: (target.parts ++ position.parts)
  | .not operand => .not operand :: operand.parts
  | .negate operand => .negate operand :: operand.parts
  | .or left right => .or left right :: (left.parts ++ right.parts)
  | .and left right => .and left right :: (left.parts ++ right.parts)
  | .binary operator left right => .binary operator left right :: (left.parts ++ right.parts)
  | .matchesRegex subject regex => .matchesRegex subject regex :: subject.parts
  | .matchesDynamic subject pattern =>
    .matchesDynamic subject pattern :: (subject.parts ++ pattern.parts)

/-- The expression is arithmetic over integers, with names for fields of the record, and has this
exact value. -/
inductive Exact (r : Record) : Expr → Int → Prop
  | literal (n : Integer) : Exact r (.literal (.integer n)) n.val
  | property {name : String} {n : Integer} (bound : r.get? name = some (.integer n)) :
    Exact r (.property name) n.val
  | negate {e : Expr} {k : Int} (operand : Exact r e k) : Exact r (.negate e) (-k)
  | add {e f : Expr} {k l : Int} (left : Exact r e k) (right : Exact r f l) :
    Exact r (.binary .add e f) (k + l)
  | subtract {e f : Expr} {k l : Int} (left : Exact r e k) (right : Exact r f l) :
    Exact r (.binary .subtract e f) (k - l)

/-- No part of the expression has an exact value out of range. -/
def StaysInRange (r : Record) (e : Expr) : Prop :=
  ∀ part ∈ e.parts, ∀ k, Exact r part k → Integer.InRange k

variable {r : Record} {e f : Expr} {k l : Int}

/-- An expression has one exact value. -/
theorem Exact.unique (exact : Exact r e k) (other : Exact r e l) : k = l := by
  induction exact generalizing l with
  | literal n =>
    cases other
    rfl
  | property bound =>
    cases other with
    | property bound' =>
      rw [bound] at bound'
      cases bound'
      rfl
  | negate _ ih =>
    cases other with
    | negate operand => rw [ih operand]
  | add _ _ ihLeft ihRight =>
    cases other with
    | add left right => rw [ihLeft left, ihRight right]
  | subtract _ _ ihLeft ihRight =>
    cases other with
    | subtract left right => rw [ihLeft left, ihRight right]

/-- An expression stays in range if its value is in range and its operands stay in range. -/
theorem Exact.staysInRange_iff {inner : List Expr} (exact : Exact r e k)
    (whole : e.parts = e :: inner) :
    StaysInRange r e ↔ Integer.InRange k ∧
      ∀ part ∈ inner, ∀ k, Exact r part k → Integer.InRange k := by
  rw [StaysInRange, whole, List.forall_mem_cons]
  refine and_congr_left fun _ => ⟨fun fits => fits k exact, ?_⟩
  intro fits k' exact'
  rwa [← exact.unique exact']

/-! ## Operations with an exact result -/

/-- What an operation with an exact result comes to. -/
def checked (k : Int) (text : String) : Except EvalError Value :=
  match Integer.ofInt? k with
  | some n => .ok (.integer n)
  | none => .error (.overflow text)

theorem exists_checked_eq_ok (inside : Integer.InRange k) (text : String) :
    ∃ n : Integer, n.val = k ∧ checked k text = .ok (.integer n) := by
  have found : Integer.ofInt? k = some ⟨k, inside.1, inside.2⟩ :=
    Integer.ofInt?_eq_some_iff.mpr rfl
  exact ⟨⟨k, inside.1, inside.2⟩, rfl, by rw [checked, found]⟩

theorem checked_eq_error (outside : ¬ Integer.InRange k) (text : String) :
    checked k text = .error (.overflow text) := by
  have missing : Integer.ofInt? k = none := dif_neg outside
  rw [checked, missing]

theorem negateValue_integer (n : Integer) :
    negateValue (.integer n) = checked (-n.val) ("-" ++ n.text) := by
  cases found : Integer.ofInt? (-n.val) <;>
    simp only [negateValue, checked, Integer.neg?, found]

theorem addValues_integer (m n : Integer) :
    addValues (.integer m) (.integer n) = checked (m.val + n.val) (m.text ++ " + " ++ n.text) := by
  cases found : Integer.ofInt? (m.val + n.val) <;>
    simp only [addValues, checked, Integer.add?, found]

theorem subtractValues_integer (m n : Integer) :
    subtractValues (.integer m) (.integer n) =
      checked (m.val - n.val) (m.text ++ " - " ++ n.text) := by
  cases found : Integer.ofInt? (m.val - n.val) <;>
    simp only [subtractValues, checked, Integer.sub?, found]

/-! ## Evaluation -/

variable [Regex.Engine]

/-- An expression either stays in range and evaluates to its exact value, or leaves the range and
overflows. -/
def Computes (env : Environment) (r : Record) (e : Expr) (k : Int) : Prop :=
  (StaysInRange r e ∧ ∃ n : Integer, n.val = k ∧ e.evaluate env = .ok (.integer n)) ∨
    (¬ StaysInRange r e ∧ ∃ text, e.evaluate env = .error (.overflow text))

variable {env : Environment}

/-- An integer by itself is in range. -/
theorem Computes.alone {n : Integer} (exact : Exact r e n.val) (only : e.parts = [e])
    (value : e.evaluate env = .ok (.integer n)) : Computes env r e n.val := by
  refine .inl ⟨(exact.staysInRange_iff only).mpr ⟨n.inRange_val, ?_⟩, n, rfl, value⟩
  exact List.forall_mem_nil _

/-- The last operation of an expression whose operands stay in range. -/
theorem Computes.last {inner : List Expr} (text : String) (exact : Exact r e k)
    (whole : e.parts = e :: inner)
    (operands : ∀ part ∈ inner, ∀ k, Exact r part k → Integer.InRange k)
    (evaluated : e.evaluate env = checked k text) : Computes env r e k := by
  have fits := exact.staysInRange_iff whole
  by_cases inside : Integer.InRange k
  · obtain ⟨n, value, computed⟩ := exists_checked_eq_ok inside text
    exact .inl ⟨fits.mpr ⟨inside, operands⟩, n, value, evaluated.trans computed⟩
  · have failed := evaluated.trans (checked_eq_error inside text)
    exact .inr ⟨fun stays => inside (fits.mp stays).1, text, failed⟩

theorem Computes.negate (exact : Exact r e k) (operand : Computes env r e k) :
    Computes env r (.negate e) (-k) := by
  rcases operand with ⟨stays, n, rfl, value⟩ | ⟨leaves, text, failed⟩
  · refine .last ("-" ++ n.text) (.negate exact) rfl stays ?_
    rw [Expr.evaluate, value, ← negateValue_integer]
    rfl
  · refine .inr ⟨fun stays => leaves ((exact.negate.staysInRange_iff rfl).mp stays).2, text, ?_⟩
    rw [Expr.evaluate, failed]
    rfl

/-- The left operand is evaluated first, so it is the one that overflows if both would. -/
theorem Computes.binary {operator : Operator} (result : Int → Int → Int)
    (text : Integer → Integer → String) (exact : Exact r (.binary operator e f) (result k l))
    (computed : ∀ m n : Integer, applyOperator operator (.integer m) (.integer n) =
      checked (result m.val n.val) (text m n))
    (left : Computes env r e k) (right : Computes env r f l) :
    Computes env r (.binary operator e f) (result k l) := by
  have fits := exact.staysInRange_iff rfl
  rw [List.forall_mem_append] at fits
  rcases left with ⟨staysLeft, m, rfl, valueLeft⟩ | ⟨leaves, text, failed⟩
  · rcases right with ⟨staysRight, n, rfl, valueRight⟩ | ⟨leaves, text, failed⟩
    · have operands := List.forall_mem_append.mpr ⟨staysLeft, staysRight⟩
      refine .last (text m n) exact rfl operands ?_
      rw [Expr.evaluate, valueLeft, valueRight, ← computed]
      rfl
    · refine .inr ⟨fun stays => leaves (fits.mp stays).2.2, text, ?_⟩
      rw [Expr.evaluate, valueLeft, failed]
      rfl
  · refine .inr ⟨fun stays => leaves (fits.mp stays).2.1, text, ?_⟩
    rw [Expr.evaluate, failed]
    rfl

theorem Exact.computes (root : env.root = .record r) (exact : Exact r e k) :
    Computes env r e k := by
  induction exact with
  | literal n => exact .alone (.literal n) rfl rfl
  | @property name n bound =>
    refine .alone (.property bound) rfl ?_
    rw [Expr.evaluate, root, readProperty, bound]
  | negate operand ih => exact ih.negate operand
  | add left right ihLeft ihRight =>
    exact .binary (· + ·) _ (.add left right) addValues_integer ihLeft ihRight
  | subtract left right ihLeft ihRight =>
    exact .binary (· - ·) _ (.subtract left right) subtractValues_integer ihLeft ihRight

/-- Integer arithmetic is exact or reported. Arithmetic over integers evaluates to its exact value
if no part of it has an exact value out of range, and otherwise fails with an overflow. -/
theorem evaluate_of_exact (root : env.root = .record r) (exact : Exact r e k) :
    ((∀ part ∈ e.parts, ∀ j, Exact r part j → Integer.InRange j) →
        ∃ n : Integer, n.val = k ∧ e.evaluate env = .ok (.integer n)) ∧
      ((∃ part ∈ e.parts, ∃ j, Exact r part j ∧ ¬ Integer.InRange j) →
        ∃ text, e.evaluate env = .error (.overflow text)) := by
  rcases exact.computes root with ⟨stays, computed⟩ | ⟨leaves, failed⟩
  · refine ⟨fun _ => computed, ?_⟩
    rintro ⟨part, member, j, exact', outside⟩
    exact absurd (stays part member j exact') outside
  · exact ⟨fun stays => absurd stays leaves, fun _ => failed⟩

end Expression

namespace Depot

open Expression

/-- A counter that is full. -/
def counter : Record := ⟨.unnamed, [("count", .integer .maximum)]⟩

/-- One. -/
def one : Expr := .literal (.integer ⟨1, by decide, by decide⟩)

/-- A full counter goes down to the least integer, `-count - 1`, but does not come back from one
more, `count + 1 - 1`, although it would be back in range. -/
theorem full_counter_overflows :
    (Expr.binary .subtract (.negate (.property "count")) one).evaluate ⟨.record counter, []⟩ =
        .ok (.integer .minimum) ∧
      ∃ text, (Expr.binary .subtract (.binary .add (.property "count") one) one).evaluate
        ⟨.record counter, []⟩ = .error (.overflow text) := by
  have count : Exact counter (.property "count") 9223372036854775807 :=
    .property (n := .maximum) rfl
  have unit : Exact counter one 1 := .literal ⟨1, by decide, by decide⟩
  have down : Exact counter (.binary .subtract (.negate (.property "count")) one)
      (-9223372036854775808) := .subtract (.negate count) unit
  have up : Exact counter (.binary .add (.property "count") one) 9223372036854775808 :=
    .add count unit
  have root : Environment.root ⟨.record counter, []⟩ = .record counter := rfl
  constructor
  · have stays : StaysInRange counter (.binary .subtract (.negate (.property "count")) one) := by
      intro part member j exact'
      simp only [Expr.parts, one, List.cons_append, List.nil_append, List.mem_cons,
        List.not_mem_nil, or_false] at member
      rcases member with rfl | rfl | rfl | rfl
      · rw [exact'.unique down]
        decide
      · rw [exact'.unique (.negate count)]
        decide
      · rw [exact'.unique count]
        decide
      · rw [exact'.unique unit]
        decide
    obtain ⟨n, value, computed⟩ := (evaluate_of_exact root down).1 stays
    have least : n = .minimum := Integer.ext value
    rw [computed, least]
  · refine (evaluate_of_exact root (.subtract up unit)).2 ⟨_, ?_, _, up, by decide⟩
    exact List.mem_cons_of_mem _ (List.mem_append_left _ List.mem_cons_self)

end Depot

end Remap
