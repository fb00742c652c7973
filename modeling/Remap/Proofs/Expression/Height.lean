import Mathlib.Tactic.Ring
import Remap.Proofs.Expression.Soundness

/-!
# How high an expression can be

The number of levels that can be open is limited, and every parenthesis, bracket and sign and every
link of a chain opens one. But a chain closes its levels at its end. So the links of the chain
around it start anew, on top of a tree that has as many of them as the levels allow, and a
parenthesis hands such a tree on to the chains outside of it. Comparisons open no level, but one
comparison comes below another one only in parentheses or brackets, and these stay open.

Main statement: `Reads.light`, what the links and the comparisons on a path can weigh at most with
so many levels left, whatever each of them weighs.
-/

namespace Remap.Expression

/-- The number of nodes on a longest path from the root of the tree to a leaf. -/
def Expr.height : Expr → Nat
  | .literal _ | .property _ | .variable _ => 1
  | .member target _ => target.height + 1
  | .index target position => max target.height position.height + 1
  | .not operand | .negate operand => operand.height + 1
  | .or left right | .and left right | .binary _ left right => max left.height right.height + 1
  | .matchesRegex subject _ => subject.height + 1
  | .matchesDynamic subject pattern => max subject.height pattern.height + 1

/-! ## Weights -/

/-- What a link of a chain or a sign weighs, and what a comparison weighs. -/
structure Weights where
  link : Nat
  comparison : Nat

/-- The weight of an operator. A sum is a link, all others compare. -/
def Operator.weight (ws : Weights) : Operator → Nat
  | .add | .subtract => ws.link
  | _ => ws.comparison

/-- The weight of a heaviest path from the root of the tree to a leaf. -/
def Expr.weight (ws : Weights) : Expr → Nat
  | .literal _ | .property _ | .variable _ => 0
  | .member target _ => target.weight ws + ws.link
  | .index target position => max (target.weight ws) (position.weight ws) + ws.link
  | .not operand | .negate operand => operand.weight ws + ws.link
  | .or left right | .and left right => max (left.weight ws) (right.weight ws) + ws.link
  | .binary operator left right =>
    max (left.weight ws) (right.weight ws) + operator.weight ws
  | .matchesRegex subject _ => subject.weight ws + ws.comparison
  | .matchesDynamic subject pattern =>
    max (subject.weight ws) (pattern.weight ws) + ws.comparison

/-- The greatest number of links of chains and of signs on a path. -/
def Expr.links (e : Expr) : Nat := e.weight ⟨1, 0⟩

/-- The greatest number of comparisons on a path. -/
def Expr.comparisons (e : Expr) : Nat := e.weight ⟨0, 1⟩

/-- Every node but the leaf at the end of a path is a link or a comparison. -/
theorem Expr.height_eq (e : Expr) : e.height = e.weight ⟨1, 1⟩ + 1 := by
  induction e with
  | literal | property | «variable» => rfl
  | member _ _ ih | not _ ih | negate _ ih | matchesRegex _ _ ih => rw [height, weight, ih]
  | index _ _ ihLeft ihRight | or _ _ ihLeft ihRight | and _ _ ihLeft ihRight
  | matchesDynamic _ _ ihLeft ihRight =>
    rw [height, weight, ihLeft, ihRight, Nat.add_max_add_right]
  | binary operator _ _ ihLeft ihRight =>
    rw [height, weight, ihLeft, ihRight, Nat.add_max_add_right]
    cases operator <;> rfl

theorem Expr.height_le (e : Expr) : e.height ≤ e.links + e.comparisons + 1 := by
  rw [height_eq, links, comparisons]
  refine Nat.succ_le_succ ?_
  induction e with
  | literal | property | «variable» => exact Nat.zero_le _
  | binary operator left right ihLeft ihRight =>
    cases operator <;> simp only [weight, Operator.weight] <;> omega
  | _ =>
    simp only [weight]
    omega

variable {ws : Weights}

theorem Joins.weight_eq {σ : Symbol} {token : Token} {join : Expr → Expr → Expr}
    (joins : Joins σ token join) (l r : Expr) :
    (join l r).weight ws = max (l.weight ws) (r.weight ws) + ws.link := by
  cases joins <;> rfl

theorem Compares.weight_eq {token : Token} {operator : Operator}
    (compares : Compares token operator) : operator.weight ws = ws.comparison := by
  cases compares <;> rfl

theorem Atom.weight_eq {token : Token} {e : Expr} (single : Atom token e) : e.weight ws = 0 := by
  cases single <;> rfl

theorem Negates.weight_le (ws : Weights) {operand e : Expr} (negates : Negates operand e) :
    e.weight ws ≤ operand.weight ws + ws.link := by
  cases negates with
  | integer | decimal => exact Nat.zero_le _
  | other => exact Nat.le_refl _

theorem Expr.weight_le_of_matching [Regex.Engine] (ws : Weights) {subject pattern e : Expr}
    (matched : subject.matching pattern = .ok e) :
    e.weight ws ≤ max (subject.weight ws) (pattern.weight ws) + ws.comparison := by
  unfold matching at matched
  split at matched
  · split at matched
    · cases matched
      exact Nat.add_le_add_right (Nat.le_max_left _ _) _
    · cases matched
  · cases matched
    exact Nat.le_refl _

/-! ## The heaviest expressions -/

/-- The weight that an operand can have with so many levels left. In parentheses stands a whole
expression with one level less: four chains, and a comparison. -/
def heaviestOperand (ws : Weights) : Nat → Nat
  | 0 => 0
  | room + 1 => heaviestOperand ws room + (4 * (ws.link * room) + ws.comparison)

namespace Symbol

/-- What the chains and the comparison of a symbol can add to the weight of an operand. -/
def adds (ws : Weights) : Symbol → Nat → Nat
  | .primary, _ => 0
  | .steps, room | .unary, room => ws.link * room
  | .sum, room => 2 * (ws.link * room)
  | .comparison, room | .not, room => 2 * (ws.link * room) + ws.comparison
  | .and, room => 3 * (ws.link * room) + ws.comparison
  | .or, room => 4 * (ws.link * room) + ws.comparison

/-- The weight that a symbol can have with so many levels left. -/
def heaviest (ws : Weights) (σ : Symbol) (room : Nat) : Nat :=
  heaviestOperand ws room + σ.adds ws room

variable {σ τ : Symbol} {room : Nat}

theorem heaviestOperand_succ : heaviestOperand ws (room + 1) = or.heaviest ws room := rfl

/-- With a node for each link and each comparison. -/
theorem heaviest_nodes : or.heaviest ⟨1, 1⟩ room = 2 * room ^ 2 + 3 * room + 1 := by
  induction room with
  | zero => rfl
  | succ room ih =>
    rw [heaviest, heaviestOperand_succ, ih, adds]
    ring

theorem heaviest_comparisons : or.heaviest ⟨0, 1⟩ room = room + 1 := by
  induction room with
  | zero => rfl
  | succ room ih =>
    rw [heaviest, heaviestOperand_succ, ih, adds]
    ring

theorem heaviest_le_succ (ws : Weights) (σ : Symbol) (room : Nat) :
    σ.heaviest ws room ≤ σ.heaviest ws (room + 1) := by
  refine Nat.add_le_add (Nat.le_add_right _ _) ?_
  cases σ <;> simp only [adds, Nat.mul_succ] <;> omega

theorem heaviest_chain (chains : Chains σ τ) :
    σ.heaviest ws room = τ.heaviest ws room + ws.link * room := by
  cases chains <;> simp only [heaviest, adds] <;> omega

theorem heaviest_comparison :
    comparison.heaviest ws room = sum.heaviest ws room + ws.comparison := by
  simp only [heaviest, adds, Nat.add_assoc]

theorem heaviest_sign (ws : Weights) (room : Nat) (sign : σ = not ∨ σ = unary) :
    σ.heaviest ws room + ws.link ≤ σ.heaviest ws (room + 1) := by
  have operand : heaviestOperand ws room ≤ heaviestOperand ws (room + 1) := Nat.le_add_right _ _
  obtain rfl | rfl := sign <;> simp only [heaviest, adds, Nat.mul_succ] <;> omega

end Symbol

/-! ## Readings -/

/-- The number of levels that are left. -/
def Cursor.room (c : Cursor) : Nat := maxNesting - c.depth

/-- A level that is opened is one less that is left. -/
theorem Cursor.room_eq_succ {depth : Nat} (inside : depth < maxNesting) (rest rest' : List Lexeme)
    (finish finish' : Nat) :
    Cursor.room ⟨rest, finish, depth⟩ = Cursor.room ⟨rest', finish', depth + 1⟩ + 1 := by
  simp only [room]
  omega

theorem Cursor.room_eq_of_depth_eq {c d : Cursor} (same : d.depth = c.depth) : d.room = c.room :=
  congrArg (maxNesting - ·) same

namespace Reads

/-- A symbol leaves as many levels open as there were. -/
theorem depth_eq [Regex.Engine] {σ : Symbol} {c d : Cursor} {e : Expr}
    (read : Reads (.whole σ) c e d) : d.depth = c.depth := by
  generalize whole : Production.whole σ = p at read
  induction read generalizing σ with
  | chain | atom | key => rfl
  | alone | join | member | index => cases whole
  | denial room inner ih | negation room inner negated ih =>
    have inside := ih rfl
    simp only [Cursor.shallower, inside, Nat.add_sub_cancel]
  | group room inner closes ih =>
    have inside := ih rfl
    simp only [Cursor.shallower, Cursor.advance, inside, Nat.add_sub_cancel]
  | affirmed plain inner ih | positive plain inner ih => exact ih rfl
  | uncompared inner ends unmatched ih => exact ih rfl
  | compared first compares second ihFirst ihSecond => exact (ihSecond rfl).trans (ihFirst rfl)
  | matched first compares second read ihFirst ihSecond =>
    exact (ihSecond rfl).trans (ihFirst rfl)

/-- A symbol weighs no more than it can with the levels that are left, and no more does a chain that
goes on behind an expression, unless that expression is too heavy for one link more for each of the
levels. -/
def Light (ws : Weights) : Production → Cursor → Expr → Prop
  | .whole σ, c, e => e.weight ws ≤ σ.heaviest ws c.room
  | .links σ left, c, e =>
    e.weight ws ≤ max (left.weight ws + ws.link * c.room) (σ.heaviest ws c.room)

/-- A link is put on top of the chain before it and of its operand, and takes one level for that. -/
theorem light_of_link {σ : Symbol} {left linked e : Expr} {room : Nat} (operand : Nat)
    (joined : linked.weight ws ≤ max (left.weight ws) operand + ws.link)
    (operandLight : operand + ws.link * (room + 1) ≤ σ.heaviest ws (room + 1))
    (more : e.weight ws ≤ max (linked.weight ws + ws.link * room) (σ.heaviest ws room)) :
    e.weight ws ≤ max (left.weight ws + ws.link * (room + 1)) (σ.heaviest ws (room + 1)) := by
  have fewer := σ.heaviest_le_succ ws room
  rw [Nat.mul_succ] at operandLight ⊢
  omega

theorem light [Regex.Engine] {p : Production} {c d : Cursor} {e : Expr} (read : Reads p c e d) :
    Light ws p c e := by
  induction read with
  | chain chains first more ihFirst ihMore =>
    simp only [Light, Cursor.room_eq_of_depth_eq first.depth_eq] at ihFirst ihMore ⊢
    rw [Symbol.heaviest_chain chains] at ihMore ⊢
    omega
  | alone ends => exact Nat.le_trans (Nat.le_add_right _ _) (Nat.le_max_left _ _)
  | @join σ τ token join left right e offset finish depth rest d d' chains joins inside operand more
      ihOperand ihMore =>
    simp only [Light, Cursor.room_eq_of_depth_eq operand.depth_eq] at ihOperand ihMore ⊢
    rw [Cursor.room_eq_succ inside _ rest _ finish]
    refine light_of_link _ (Nat.le_of_eq (joins.weight_eq left right)) ?_ ihMore
    rw [Symbol.heaviest_chain chains]
    exact Nat.add_le_add_right (Nat.le_trans ihOperand (Symbol.heaviest_le_succ _ _ _)) _
  | @member target e name offset offset' finish depth rest d inside more ihMore =>
    simp only [Light] at ihMore ⊢
    rw [Cursor.room_eq_succ inside _ rest _ finish]
    refine light_of_link 0 ?_ ?_ ihMore
    · rw [Nat.max_zero, Expr.weight]
    · rw [Nat.zero_add, Symbol.heaviest_chain .steps]
      exact Nat.le_add_left _ _
  | @index target position e offset finish depth rest d d' inside inner closes more ihInner
      ihMore =>
    have depthAfter : d.shallower.advance.depth = depth + 1 := by
      simp only [Cursor.shallower, Cursor.advance, inner.depth_eq]
      rfl
    have same : d.shallower.advance.room = Cursor.room ⟨rest, finish, depth + 1⟩ :=
      Cursor.room_eq_of_depth_eq depthAfter
    simp only [Light, same] at ihInner ihMore ⊢
    rw [Cursor.room_eq_succ (Nat.lt_of_succ_lt inside) _ rest _ finish]
    refine light_of_link _ (Nat.le_refl _) ?_ ihMore
    rw [Symbol.heaviest_chain .steps]
    -- The position has one level more open than what stands behind it, and a whole expression with
    -- one level less weighs what an operand does.
    refine Nat.add_le_add_right (Nat.le_trans ?_ (Symbol.heaviest_le_succ _ _ _)) _
    rw [Cursor.room_eq_succ inside _ rest _ finish]
    exact ihInner
  | @denial operand offset finish depth rest d inside inner ih =>
    simp only [Light] at ih ⊢
    rw [Cursor.room_eq_succ inside _ rest _ finish]
    exact Nat.le_trans (Nat.add_le_add_right ih _) (Symbol.heaviest_sign _ _ (.inl rfl))
  | affirmed plain inner ih => exact ih
  | uncompared inner ends unmatched ih =>
    rw [Light, Symbol.heaviest_comparison]
    exact Nat.le_trans ih (Nat.le_add_right _ _)
  | @compared operator left right c d d' first compares second ihFirst ihSecond =>
    have same : d.advance.room = c.room := Cursor.room_eq_of_depth_eq first.depth_eq
    simp only [Light, same] at ihFirst ihSecond ⊢
    rw [Symbol.heaviest_comparison, Expr.weight, (comparison?_eq_some_iff.mp compares).weight_eq]
    exact Nat.add_le_add_right (Nat.max_le.mpr ⟨ihFirst, ihSecond⟩) _
  | @matched subject pattern e c d d' first compares second read ihFirst ihSecond =>
    have same : d.advance.room = c.room := Cursor.room_eq_of_depth_eq first.depth_eq
    simp only [Light, same] at ihFirst ihSecond ⊢
    rw [Symbol.heaviest_comparison]
    have matched := Expr.weight_le_of_matching ws (matchExpr_eq_ok.mp read)
    exact Nat.le_trans matched (Nat.add_le_add_right (Nat.max_le.mpr ⟨ihFirst, ihSecond⟩) _)
  | @negation operand e offset finish depth rest d inside inner negated ih =>
    simp only [Light] at ih ⊢
    rw [Cursor.room_eq_succ inside _ rest _ finish]
    have added := (negation_eq_ok.mp negated).weight_le ws
    exact Nat.le_trans added
      (Nat.le_trans (Nat.add_le_add_right ih _) (Symbol.heaviest_sign _ _ (.inr rfl)))
  | positive plain inner ih => exact ih
  | atom single =>
    rw [Light, (atom?_eq_some_iff.mp single).weight_eq]
    exact Nat.zero_le _
  | @group e offset finish depth rest d inside inner closes ih =>
    simp only [Light] at ih ⊢
    rw [Cursor.room_eq_succ inside _ rest _ finish]
    exact ih
  | key => exact Nat.zero_le _

end Reads

/-- What is read weighs no more than the levels allow. -/
theorem weight_le_of_parse [Regex.Engine] (ws : Weights) {text : String} {e : Expression}
    (parsed : Expression.parse text = .ok e) :
    e.tree.weight ws ≤ Symbol.or.heaviest ws maxNesting := by
  obtain ⟨tokens, tree, -, -, read, rfl⟩ := parse_eq_ok.mp parsed
  simp only [parseTokens_eq, bind_eq_ok, pure_eq_ok] at read
  obtain ⟨⟨e, d⟩, whole, _, -, rfl⟩ := read
  exact (Reads.of_run (p := .whole .or) whole).light

/-- The height of what is read, by the number of all levels. -/
theorem height_le_of_parse [Regex.Engine] {text : String} {e : Expression}
    (parsed : Expression.parse text = .ok e) :
    e.tree.height ≤ 2 * maxNesting ^ 2 + 3 * maxNesting + 2 := by
  have nodes := weight_le_of_parse ⟨1, 1⟩ parsed
  rw [Symbol.heaviest_nodes] at nodes
  rw [e.tree.height_eq]
  exact Nat.succ_le_succ nodes

theorem comparisons_le_of_parse [Regex.Engine] {text : String} {e : Expression}
    (parsed : Expression.parse text = .ok e) : e.tree.comparisons ≤ maxNesting + 1 := by
  have comparisons := weight_le_of_parse ⟨0, 1⟩ parsed
  rw [Symbol.heaviest_comparisons] at comparisons
  exact comparisons

end Remap.Expression
