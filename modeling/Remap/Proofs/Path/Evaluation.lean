import Remap.Path.Basic
import Remap.Proofs.Fallible
import Remap.Regex.Reader

/-!
# Reading is evaluating

A path is the steps of an expression, one after the other. Reading it takes these steps from the
root, where the expression is evaluated from its innermost part outwards. A text in brackets is a
step to a property, whatever it is taken from, while the expression asks for a record there: both
fail on anything else, with errors of their own.

Main statement: a path and the expression of its text have the same value, for every root, and the
same errors if no text stands in brackets.
-/

namespace Remap

/-! ## Results that agree -/

/-- The same value comes of both, or both fail; under the condition they fail with the same error. -/
structure Agree (exact : Prop) (a b : Except EvalError Value) : Prop where
  value : ∀ v, a = .ok v ↔ b = .ok v
  error : exact → a = b

namespace Agree

variable {P Q : Prop} {a b : Except EvalError Value} {f g : Value → Except EvalError Value}

theorem refl (a : Except EvalError Value) : Agree P a a := ⟨fun _ => .rfl, fun _ => rfl⟩

theorem imp (agree : Agree P a b) (narrower : Q → P) : Agree Q a b :=
  ⟨agree.value, fun exact => agree.error (narrower exact)⟩

theorem bind (agree : Agree P a b) (next : ∀ w, Agree P (f w) (g w)) :
    Agree P (a >>= f) (b >>= g) where
  value v := by
    simp only [bind_eq_ok, agree.value, (next _).value]
  error exact := by
    rw [agree.error exact, funext fun w => (next w).error exact]

end Agree

namespace Expression

/-- A text stands in brackets after one of the steps of an expression. -/
def Expr.quotesKey : Expr → Bool
  | .member target _ => target.quotesKey
  | .index _ (.literal (.string _)) => true
  | .index target _ => target.quotesKey
  | _ => false

end Expression

namespace Path

theorem readSegments_append (v : Value) (before after : List Segment) :
    readSegments v (before ++ after) = readSegments v before >>= fun w => readSegments w after := by
  induction before generalizing v with
  | nil => rfl
  | cons s rest ih =>
    simp only [List.cons_append, readSegments, bind_assoc, ih]

theorem readSegments_singleton (v : Value) (s : Segment) :
    readSegments v [s] = readSegment v s :=
  bind_pure (readSegment v s)

/-- A position in brackets is taken as the expression takes it. -/
theorem readSegment_position (v : Value) {n : Integer} (counts : 0 ≤ n.val) :
    readSegment v (.index n.val.toNat) = Expression.readIndex v (.integer n) := by
  cases v with
  | list items => simp [readSegment, Expression.readIndex, Int.toNat_of_nonneg counts]
  | null => simp [readSegment, Expression.readIndex, Value.text, Integer.text_of_nonneg counts]
  | _ => rfl

/-- A text in brackets names a property of a record; nothing else has a value there. -/
theorem readSegment_key (v : Value) (key : String) :
    Agree False (readSegment v (.property key)) (Expression.readIndex v (.string key)) := by
  cases v with
  | record r => exact .refl _
  | _ => exact ⟨fun w => ⟨nofun, nofun⟩, False.elim⟩

variable [Regex.Engine]

/-- The steps of an expression lead from the root to its value. -/
theorem agree_evaluate {e : Expression.Expr} {segments : List Segment}
    (steps : segmentsOf? e = some segments) (env : Expression.Environment) :
    Agree (e.quotesKey = false) (readSegments env.root segments) (e.evaluate env) := by
  induction e generalizing segments with
  | property name =>
    cases steps
    rw [readSegments_singleton]
    exact .refl _
  | member target name ih =>
    obtain ⟨before, found, rfl⟩ := Option.map_eq_some_iff.mp steps
    rw [readSegments_append]
    refine (ih found).bind fun w => ?_
    rw [readSegments_singleton]
    exact .refl _
  | index target position ih =>
    obtain ⟨before, found, step⟩ := Option.bind_eq_some_iff.mp steps
    cases position with
    | literal l =>
      obtain ⟨s, constant, rfl⟩ := Option.map_eq_some_iff.mp step
      rw [readSegments_append]
      cases l with
      | integer n =>
        simp only [segmentOfLiteral?] at constant
        split at constant
        · next counts =>
          cases constant
          refine (ih found).bind fun w => ?_
          rw [readSegments_singleton, readSegment_position w counts]
          exact .refl _
        · cases constant
      | string key =>
        cases constant
        refine ((ih found).imp nofun).bind fun w => ?_
        rw [readSegments_singleton]
        exact (readSegment_key w key).imp nofun
      | null | boolean | decimal => cases constant
    | _ => cases step
  | _ => cases steps

/-- A text that stands for a path stands for an expression too, and to read the path is to evaluate
the expression: for every root both have the same value, or both fail. Unless a text in brackets
names one of the steps, they fail with the same error. -/
theorem read_eq_ok_iff_evaluate (text : String) (path : Path) (parsed : parse text = .ok path) :
    ∃ e, Expression.parse text = .ok e ∧ ∀ env : Expression.Environment,
      (∀ v, path.read env.root = .ok v ↔ e.evaluate env = .ok v) ∧
        (e.tree.quotesKey = false → path.read env.root = e.evaluate env) := by
  obtain ⟨e, expression, made⟩ := bind_eq_ok.mp parsed
  refine ⟨e, expression, fun env => ?_⟩
  split at made
  · next path' found =>
    cases made
    obtain ⟨segments, steps, rfl⟩ := Option.map_eq_some_iff.mp found
    have agree := agree_evaluate steps env
    exact ⟨agree.value, agree.error⟩
  · cases made

end Path

namespace Depot

/-- A delivery of one crate. -/
def delivery : Value :=
  .record ⟨.unnamed, [("crates", .list [.record ⟨.unnamed,
    [("first part", .record ⟨.unnamed, [("label", .string "nuts")]⟩)]⟩])]⟩

/-- The path to the label of the first part of the first crate. -/
def firstLabel : Path :=
  ⟨"(crates)[0]['first part'].label",
    [.property "crates", .index 0, .property "first part", .property "label"]⟩

/-- The label is read by the steps of a path, and evaluated through parentheses, a position and a
text in brackets. -/
theorem first_label_is_evaluated :
    Path.parse "(crates)[0]['first part'].label" = .ok firstLabel ∧
      ∃ e, Expression.parse "(crates)[0]['first part'].label" = .ok e ∧
        firstLabel.read delivery = .ok (.string "nuts") ∧
        e.evaluate ⟨delivery, []⟩ = .ok (.string "nuts") := by
  have parsed : Path.parse "(crates)[0]['first part'].label" = .ok firstLabel :=
    eq_ok_of_toOption (by decide +kernel)
  obtain ⟨e, expression, agree⟩ := Path.read_eq_ok_iff_evaluate _ firstLabel parsed
  have read : firstLabel.read delivery = .ok (.string "nuts") := rfl
  exact ⟨parsed, e, expression, read, ((agree ⟨delivery, []⟩).1 _).mp read⟩

end Depot

end Remap
