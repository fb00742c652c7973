import Remap.Proofs.Expression.Grammar
import Remap.Proofs.Expression.Reads

/-!
# What is read is derived

A production takes tokens off the front, and the grammar derives from them what the production
reads: a symbol derives the tokens that it takes, and what goes on with a chain takes tokens that
lengthen the chain. The proof is an induction on `Reads`, one case for each rule.
-/

namespace Remap.Expression

/-- The tokens without their places. -/
abbrev tokensOf (ls : List Lexeme) : List Token := ls.map (·.token)

/-- The tokens stand for a tree with its literal patterns read. -/
def Denotes [Regex.Engine] (σ : Symbol) (w : List Token) (e : Expr) : Prop :=
  ∃ t, Derives σ w t ∧ t.withRegexes = .ok e

/-! ## Signs, atoms and literals -/

theorem atom?_eq_some_iff {token : Token} {e : Expr} : atom? token = some e ↔ Atom token e := by
  constructor
  · intro single
    cases token <;> cases single <;> constructor
  · intro single
    cases single <;> rfl

theorem comparison?_eq_some_iff {token : Token} {operator : Operator} :
    comparison? token = some operator ↔ Compares token operator := by
  constructor
  · intro compares
    cases token <;> cases compares <;> constructor
  · intro compares
    cases compares <;> rfl

theorem negation_eq_ok {operand e : Expr} {offset : Nat} :
    negation operand offset = .ok e ↔ Negates operand e := by
  constructor
  · intro negated
    unfold negation at negated
    split at negated
    · split at negated
      · next opposite =>
        cases negated
        exact .integer (Integer.ofInt?_eq_some_iff.mp opposite)
      · cases negated
    · cases negated
      exact .decimal _
    · next integer decimal =>
      cases negated
      exact .other integer decimal
  · intro negates
    unfold negation
    cases negates with
    | integer opposite =>
      have negated : Integer.neg? _ = some _ := Integer.ofInt?_eq_some_iff.mpr opposite
      simp only [negated]
    | decimal => rfl
    | other integer decimal =>
      split
      · exact absurd rfl (integer _)
      · exact absurd rfl (decimal _)
      · rfl

/-- A match is what the grammar makes of it, or its pattern is reported. -/
theorem matchExpr_eq [Regex.Engine] (subject pattern : Expr) (offset : Nat) :
    matchExpr subject pattern offset =
      (subject.matching pattern).mapError fun bad => ⟨.invalidPattern bad.1 bad.2, offset⟩ := by
  cases pattern with
  | literal l =>
    cases l with
    | string p =>
      simp only [matchExpr, Expr.matching]
      cases Regex.Engine.read (wholeMatch p) <;> rfl
    | _ => rfl
  | _ => rfl

theorem matchExpr_eq_ok [Regex.Engine] {subject pattern e : Expr} {offset : Nat} :
    matchExpr subject pattern offset = .ok e ↔ subject.matching pattern = .ok e := by
  rw [matchExpr_eq]
  constructor
  · intro read
    cases matched : subject.matching pattern with
    | error => rw [matched] at read; cases read
    | ok => rw [matched] at read; cases read; rfl
  · intro matched
    rw [matched]
    rfl

/-! ## Rules for trees whose patterns are read -/

namespace Denotes

variable {σ τ : Symbol} {w v : List Token} {e l r : Expr}

variable [Regex.Engine]

/-- A rule that leaves the tree as it is. -/
theorem imp (inner : Denotes τ w e) (derives : ∀ t, Derives τ w t → Derives σ v t) :
    Denotes σ v e := by
  obtain ⟨t, derived, read⟩ := inner
  exact ⟨t, derives t derived, read⟩

/-- A rule for one operand. -/
theorem map {f : Expr → Expr} (inner : Denotes τ w e)
    (derives : ∀ t, Derives τ w t → Derives σ v (f t))
    (reads : ∀ t, (f t).withRegexes = (do return f (← t.withRegexes))) : Denotes σ v (f e) := by
  obtain ⟨t, derived, read⟩ := inner
  refine ⟨f t, derives t derived, ?_⟩
  rw [reads, read]
  rfl

/-- A rule for two operands. -/
theorem map₂ {τ' : Symbol} {u : List Token} {f : Expr → Expr → Expr}
    (left : Denotes τ w l) (right : Denotes τ' v r)
    (derives : ∀ t t', Derives τ w t → Derives τ' v t' → Derives σ u (f t t'))
    (reads : ∀ t t', (f t t').withRegexes =
      (do return f (← t.withRegexes) (← t'.withRegexes))) :
    Denotes σ u (f l r) := by
  obtain ⟨t, derived, read⟩ := left
  obtain ⟨t', derived', read'⟩ := right
  refine ⟨f t t', derives t t' derived derived', ?_⟩
  rw [reads, read, read']
  rfl

theorem matched (left : Denotes .sum w l) (right : Denotes .sum v r)
    (matching : l.matching r = .ok e) : Denotes .comparison (w ++ .matches :: v) e := by
  obtain ⟨t, derived, read⟩ := left
  obtain ⟨t', derived', read'⟩ := right
  refine ⟨.matchesDynamic t t', .matched derived derived', ?_⟩
  rw [Expr.withRegexes, read, read']
  exact matching

theorem negation {e' : Expr} (inner : Denotes .unary w e) (negates : Negates e e') :
    Denotes .unary (.minus :: w) e' := by
  obtain ⟨t, derived, read⟩ := inner
  obtain ⟨t', negates, read⟩ := negates.of_withRegexes read
  exact ⟨t', .negation derived negates, read⟩

end Denotes

/-! ## Soundness -/

theorem Cursor.rest_eq_cons (c : Cursor) (inside : c.peek ≠ .finish) :
    ∃ offset, c.rest = ⟨c.peek, offset⟩ :: c.advance.rest := by
  rw [ne_eq, ← isFinish_iff, Bool.not_eq_true] at inside
  obtain ⟨offset, rest, finish, depth, same⟩ := c.exists_eq_cons rfl inside
  refine ⟨offset, ?_⟩
  rw [same]
  rfl

/-- What a reading takes off the front is what the grammar derives. -/
def Sound [Regex.Engine] : Production → Cursor → Expr → Cursor → Prop
  | .whole σ, c, e, d => ∃ ls, c.rest = ls ++ d.rest ∧ Denotes σ (tokensOf ls) e
  | .links σ left, c, e, d => ∃ ls, c.rest = ls ++ d.rest ∧
    ∀ w, Denotes σ w left → Denotes σ (w ++ tokensOf ls) e

theorem Reads.sound [Regex.Engine] {p : Production} {c d : Cursor} {e : Expr}
    (read : Reads p c e d) : Sound p c e d := by
  induction read with
  | chain chains first more ihFirst ihMore =>
    obtain ⟨ls, taken, derives⟩ := ihFirst
    obtain ⟨ls', taken', lengthens⟩ := ihMore
    refine ⟨ls ++ ls', ?_, ?_⟩
    · rw [taken, taken', List.append_assoc]; rfl
    · rw [tokensOf, List.map_append]
      exact lengthens _ (derives.imp fun _ => .operand chains)
  | alone ends => exact ⟨[], rfl, fun w derives => by rwa [tokensOf, List.map_nil, List.append_nil]⟩
  | @join σ τ token join left right e offset finish depth rest d d' chains joins room operand more
      ihOperand ihMore =>
    obtain ⟨ls, taken, derives⟩ := ihOperand
    obtain ⟨ls', taken', lengthens⟩ := ihMore
    refine ⟨⟨token, offset⟩ :: (ls ++ ls'), ?_, fun w chain => ?_⟩
    · simp only at taken
      rw [taken, taken', List.cons_append, List.append_assoc]
    · have joined := chain.map₂ derives (fun _ _ => .join chains joins) joins.withRegexes_eq
      have longer := lengthens _ joined
      rwa [List.append_assoc, List.cons_append, ← List.map_append] at longer
  | @member target e name offset offset' finish depth rest d room more ih =>
    obtain ⟨ls, taken, lengthens⟩ := ih
    refine ⟨⟨.dot, offset⟩ :: ⟨.identifier name, offset'⟩ :: ls, ?_, fun w chain => ?_⟩
    · simp only at taken
      rw [taken, List.cons_append, List.cons_append]
    · have longer := lengthens _ (chain.map (fun _ => .member) fun _ => rfl)
      rwa [List.append_assoc] at longer
  | @index target position e offset finish depth rest d d' room inner closes more ihInner ihMore =>
    obtain ⟨ls, taken, derives⟩ := ihInner
    obtain ⟨ls', taken', lengthens⟩ := ihMore
    obtain ⟨offset', rest', finish', depth', rfl⟩ := Cursor.exists_eq_cons closes rfl
    refine ⟨⟨.leftBracket, offset⟩ :: (ls ++ ⟨.rightBracket, offset'⟩ :: ls'), ?_, ?_⟩
    · simp only [Cursor.advance, Cursor.shallower, List.tail_cons] at taken taken'
      rw [taken, taken', List.cons_append, List.append_assoc, List.cons_append]
    · intro w chain
      have longer := lengthens _ (chain.map₂ derives (fun _ _ => .index) fun _ _ => rfl)
      simpa only [tokensOf, List.map_cons, List.map_append, List.append_assoc, List.cons_append,
        List.nil_append] using longer
  | @denial operand offset finish depth rest d room inner ih =>
    obtain ⟨ls, taken, derives⟩ := ih
    refine ⟨⟨.not, offset⟩ :: ls, ?_, derives.map (fun _ => .denial) fun _ => rfl⟩
    exact congrArg (List.cons _) taken
  | affirmed plain inner ih =>
    obtain ⟨ls, taken, derives⟩ := ih
    exact ⟨ls, taken, derives.imp fun _ => .affirmed⟩
  | uncompared inner ends unmatched ih =>
    obtain ⟨ls, taken, derives⟩ := ih
    exact ⟨ls, taken, derives.imp fun _ => .uncompared⟩
  | @compared operator left right c d d' first compares second ihFirst ihSecond =>
    obtain ⟨ls, taken, derives⟩ := ihFirst
    obtain ⟨ls', taken', derives'⟩ := ihSecond
    have compares := comparison?_eq_some_iff.mp compares
    obtain ⟨offset, next⟩ := d.rest_eq_cons fun ended => by rw [ended] at compares; cases compares
    refine ⟨ls ++ ⟨d.peek, offset⟩ :: ls', ?_, ?_⟩
    · rw [taken, next, taken', List.append_assoc, List.cons_append]
    · rw [tokensOf, List.map_append, List.map_cons]
      exact derives.map₂ derives' (fun _ _ => .compared compares) fun _ _ => rfl
  | @matched subject pattern e c d d' first compares second read ihFirst ihSecond =>
    obtain ⟨ls, taken, derives⟩ := ihFirst
    obtain ⟨ls', taken', derives'⟩ := ihSecond
    obtain ⟨offset, next⟩ := d.rest_eq_cons fun ended => by rw [ended] at compares; cases compares
    refine ⟨ls ++ ⟨d.peek, offset⟩ :: ls', ?_, ?_⟩
    · rw [taken, next, taken', List.append_assoc, List.cons_append]
    · rw [tokensOf, List.map_append, List.map_cons, compares]
      exact derives.matched derives' (matchExpr_eq_ok.mp read)
  | @negation operand e offset finish depth rest d room inner negated ih =>
    obtain ⟨ls, taken, derives⟩ := ih
    refine ⟨⟨.minus, offset⟩ :: ls, ?_, derives.negation (negation_eq_ok.mp negated)⟩
    exact congrArg (List.cons _) taken
  | positive plain inner ih =>
    obtain ⟨ls, taken, derives⟩ := ih
    exact ⟨ls, taken, derives.imp fun _ => .positive⟩
  | @atom token e offset finish depth rest single =>
    have single := atom?_eq_some_iff.mp single
    exact ⟨[⟨token, offset⟩], rfl, e, .atom single, by cases single <;> rfl⟩
  | @group e offset finish depth rest d room inner closes ih =>
    obtain ⟨ls, taken, derives⟩ := ih
    obtain ⟨offset', rest', finish', depth', rfl⟩ := Cursor.exists_eq_cons closes rfl
    refine ⟨⟨.leftParen, offset⟩ :: (ls ++ [⟨.rightParen, offset'⟩]), ?_, ?_⟩
    · simp only at taken
      simp only [Cursor.advance, Cursor.shallower, List.tail_cons]
      rw [taken, List.cons_append, List.append_assoc, List.singleton_append]
    · rw [tokensOf, List.map_cons, List.map_append]
      exact derives.imp fun _ => .group
  | @key name offset offset' offset'' finish depth rest =>
    exact ⟨[⟨.leftBracket, offset⟩, ⟨.string name, offset'⟩, ⟨.rightBracket, offset''⟩], rfl,
      .property name, .key, rfl⟩

end Remap.Expression
