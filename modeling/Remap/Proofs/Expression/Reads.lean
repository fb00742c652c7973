import Remap.Proofs.Expression.Productions

/-!
# Readings that succeed

A production that succeeds has gone through its parts in order, and each part has succeeded. `Reads`
tells how, with one constructor for each way in which a production can go. Main statements:
`Reads.of_run`, every success is such a reading, and `Reads.run_eq`, every reading succeeds. What is
to be proved of all expressions that are read is proved by induction on `Reads`.
-/

namespace Remap.Expression

/-- What a production reads: a symbol, or what goes on with a chain behind an expression. -/
inductive Production
  | whole (σ : Symbol)
  | links (σ : Symbol) (left : Expr)

variable [Regex.Engine]

/-- The outcome of a production from a cursor on. -/
def Production.run : Production → Cursor → Outcome
  | .whole σ, c => σ.run c
  | .links σ left, c => σ.links left c

/-- The expression and the cursor behind it that a production reads from a cursor on. -/
inductive Reads : Production → Cursor → Expr → Cursor → Prop
  | chain {σ τ : Symbol} {left e : Expr} {c d d' : Cursor} (chains : Chains σ τ)
    (first : Reads (.whole τ) c left d) (more : Reads (.links σ left) d e d') :
    Reads (.whole σ) c e (d'.atDepth c.depth)
  | alone {σ : Symbol} {left : Expr} {c : Cursor} (ends : σ.continues c.peek = false) :
    Reads (.links σ left) c left c
  | join {σ τ : Symbol} {token : Token} {join : Expr → Expr → Expr} {left right e : Expr}
    {offset finish depth : Nat} {rest : List Lexeme} {d d' : Cursor}
    (chains : Chains σ τ) (joins : Joins σ token join) (room : depth < maxNesting)
    (operand : Reads (.whole τ) ⟨rest, finish, depth + 1⟩ right d)
    (more : Reads (.links σ (join left right)) d e d') :
    Reads (.links σ left) ⟨⟨token, offset⟩ :: rest, finish, depth⟩ e d'
  | member {target e : Expr} {name : String} {offset offset' finish depth : Nat}
    {rest : List Lexeme} {d : Cursor} (room : depth < maxNesting)
    (more : Reads (.links .steps (.member target name)) ⟨rest, finish, depth + 1⟩ e d) :
    Reads (.links .steps target)
      ⟨⟨.dot, offset⟩ :: ⟨.identifier name, offset'⟩ :: rest, finish, depth⟩ e d
  | index {target position e : Expr} {offset finish depth : Nat} {rest : List Lexeme}
    {d d' : Cursor} (room : depth + 1 < maxNesting)
    (inner : Reads (.whole .or) ⟨rest, finish, depth + 2⟩ position d)
    (closes : d.peek = .rightBracket)
    (more : Reads (.links .steps (.index target position)) d.shallower.advance e d') :
    Reads (.links .steps target) ⟨⟨.leftBracket, offset⟩ :: rest, finish, depth⟩ e d'
  | denial {operand : Expr} {offset finish depth : Nat} {rest : List Lexeme} {d : Cursor}
    (room : depth < maxNesting) (inner : Reads (.whole .not) ⟨rest, finish, depth + 1⟩ operand d) :
    Reads (.whole .not) ⟨⟨.not, offset⟩ :: rest, finish, depth⟩ (.not operand) d.shallower
  | affirmed {e : Expr} {c d : Cursor} (plain : c.peek ≠ .not)
    (inner : Reads (.whole .comparison) c e d) : Reads (.whole .not) c e d
  | uncompared {e : Expr} {c d : Cursor} (inner : Reads (.whole .sum) c e d)
    (ends : comparison? d.peek = none) (unmatched : d.peek ≠ .matches) :
    Reads (.whole .comparison) c e d
  | compared {operator : Operator} {left right : Expr} {c d d' : Cursor}
    (first : Reads (.whole .sum) c left d) (compares : comparison? d.peek = some operator)
    (second : Reads (.whole .sum) d.advance right d') :
    Reads (.whole .comparison) c (.binary operator left right) d'
  | matched {subject pattern e : Expr} {c d d' : Cursor}
    (first : Reads (.whole .sum) c subject d) (compares : d.peek = .matches)
    (second : Reads (.whole .sum) d.advance pattern d')
    (read : matchExpr subject pattern d.advance.offset = .ok e) :
    Reads (.whole .comparison) c e d'
  | negation {operand e : Expr} {offset finish depth : Nat} {rest : List Lexeme} {d : Cursor}
    (room : depth < maxNesting) (inner : Reads (.whole .unary) ⟨rest, finish, depth + 1⟩ operand d)
    (negated : negation operand (Cursor.offset ⟨rest, finish, depth⟩) = .ok e) :
    Reads (.whole .unary) ⟨⟨.minus, offset⟩ :: rest, finish, depth⟩ e d.shallower
  | positive {e : Expr} {c d : Cursor} (plain : c.peek ≠ .minus)
    (inner : Reads (.whole .steps) c e d) : Reads (.whole .unary) c e d
  | atom {token : Token} {e : Expr} {offset finish depth : Nat} {rest : List Lexeme}
    (single : atom? token = some e) :
    Reads (.whole .primary) ⟨⟨token, offset⟩ :: rest, finish, depth⟩ e ⟨rest, finish, depth⟩
  | group {e : Expr} {offset finish depth : Nat} {rest : List Lexeme} {d : Cursor}
    (room : depth < maxNesting) (inner : Reads (.whole .or) ⟨rest, finish, depth + 1⟩ e d)
    (closes : d.peek = .rightParen) :
    Reads (.whole .primary) ⟨⟨.leftParen, offset⟩ :: rest, finish, depth⟩ e d.shallower.advance
  | key {name : String} {offset offset' offset'' finish depth : Nat} {rest : List Lexeme} :
    Reads (.whole .primary)
      ⟨⟨.leftBracket, offset⟩ :: ⟨.string name, offset'⟩ :: ⟨.rightBracket, offset''⟩ :: rest,
        finish, depth⟩ (.property name) ⟨rest, finish, depth⟩

namespace Reads

/-- What a production reads from a cursor on, it reads in one of the ways of `Reads`. -/
def From (c : Cursor) (p : Production) : Prop :=
  ∀ e d, p.run c = .ok (e, d) → Reads p c e d

section OfRun

variable {c : Cursor} (smaller : ∀ c', c'.size < c.size → ∀ p, From c' p)
include smaller

theorem from_links (σ : Symbol) (left : Expr) : From c (.links σ left) := by
  intro e d read
  by_cases goes : σ.continues c.peek = true
  · obtain ⟨_ | ⟨⟨token, offset⟩, rest⟩, finish, depth⟩ := c
    · cases σ <;> cases goes
    have tail (depth' : Nat) : Cursor.size ⟨rest, finish, depth'⟩ <
        Cursor.size ⟨⟨token, offset⟩ :: rest, finish, depth⟩ := Nat.lt_succ_self _
    obtain ⟨τ, join, chains, joins⟩ | ⟨rfl, dot | bracket⟩ := Symbol.joins_of_continues goes
    · simp only [Production.run, Cursor.peek] at read joins
      simp only [Symbol.links_join chains joins, bind_eq_ok, Cursor.deepen_eq_ok] at read
      obtain ⟨_, room, ⟨right, d'⟩, operand, more⟩ := read
      have shorter := Symbol.shorter_of_run operand
      exact .join chains joins room (smaller _ (tail _) (.whole τ) _ _ operand)
        (smaller _ (Nat.lt_trans shorter (tail _)) (.links σ _) _ _ more)
    · obtain rfl : token = .dot := dot
      simp only [Production.run, Symbol.links_dot, bind_eq_ok, Cursor.deepen_eq_ok] at read
      obtain ⟨_, room, more⟩ := read
      split at more
      · next name identifier =>
        obtain ⟨offset', rest, finish, depth, same⟩ := Cursor.exists_eq_cons identifier rfl
        cases same
        have remaining : Cursor.size ⟨rest, finish, depth + 1⟩ < _ :=
          Nat.lt_succ_of_lt (Nat.lt_succ_self _)
        exact .member room (smaller _ remaining (.links .steps _) _ _ more)
      · cases more
    · obtain rfl : token = .leftBracket := bracket
      simp only [Production.run, Symbol.links_bracket, bind_eq_ok, Cursor.deepen_eq_ok,
        expect_eq_ok] at read
      obtain ⟨_, _, _, room, ⟨position, d'⟩, inner, d'', ⟨closes, rfl⟩, more⟩ := read
      have shorter := Symbol.shorter_of_run inner
      have advanced := d'.shallower.size_advance_le
      have remaining := Nat.lt_trans (Nat.lt_of_le_of_lt advanced shorter) (tail _)
      exact .index room (smaller _ (tail _) (.whole .or) _ _ inner) (isRightBracket_iff.mp closes)
        (smaller _ remaining (.links .steps _) _ _ more)
  · rw [Bool.not_eq_true] at goes
    simp only [Production.run, Symbol.links_alone goes, Except.ok.injEq, Prod.mk.injEq] at read
    obtain ⟨rfl, rfl⟩ := read
    exact alone goes

theorem from_chain {σ τ : Symbol} (chains : Chains σ τ) (operand : From c (.whole τ)) :
    From c (.whole σ) := by
  intro e d read
  simp only [Production.run, Symbol.run_chain chains, bind_eq_ok, pure_eq_ok] at read
  obtain ⟨⟨left, d'⟩, first, ⟨e', d''⟩, more, same⟩ := read
  cases same
  exact .chain chains (operand _ _ first)
    (smaller _ (Symbol.shorter_of_run first) (.links σ left) _ _ more)

theorem from_not (comparison : From c (.whole .comparison)) : From c (.whole .not) := by
  intro e d read
  by_cases denies : c.peek = .not
  · obtain ⟨offset, rest, finish, depth, rfl⟩ := Cursor.exists_eq_cons denies rfl
    simp only [Production.run, Symbol.run_denial, bind_eq_ok, pure_eq_ok,
      Cursor.deepen_eq_ok] at read
    obtain ⟨_, room, ⟨operand, d'⟩, inner, same⟩ := read
    cases same
    exact .denial room (smaller _ (Nat.lt_succ_self _) (.whole .not) _ _ inner)
  · simp only [Production.run, Symbol.run_not_of_ne denies] at read
    exact .affirmed denies (comparison _ _ read)

theorem from_comparison (sum : From c (.whole .sum)) : From c (.whole .comparison) := by
  intro e d read
  simp only [Production.run, Symbol.run_comparison, bind_eq_ok] at read
  obtain ⟨⟨left, d'⟩, first, more⟩ := read
  have shorter := Symbol.shorter_of_run first
  have second := smaller _ (Nat.lt_of_le_of_lt d'.size_advance_le shorter) (.whole .sum)
  have first := sum _ _ first
  unfold Symbol.compared at more
  split at more
  · next isMatch =>
    simp only [bind_eq_ok, pure_eq_ok] at more
    obtain ⟨⟨right, d''⟩, more, e', read, same⟩ := more
    cases same
    exact .matched first isMatch (second _ _ more) read
  · next unmatched =>
    split at more
    · next operator compares =>
      simp only [bind_eq_ok, pure_eq_ok] at more
      obtain ⟨⟨right, d''⟩, more, same⟩ := more
      cases same
      exact .compared first compares (second _ _ more)
    · next ends =>
      cases more
      exact .uncompared first ends unmatched

theorem from_unary (steps : From c (.whole .steps)) : From c (.whole .unary) := by
  intro e d read
  by_cases negates : c.peek = .minus
  · obtain ⟨offset, rest, finish, depth, rfl⟩ := Cursor.exists_eq_cons negates rfl
    simp only [Production.run, Symbol.run_negation, bind_eq_ok, pure_eq_ok,
      Cursor.deepen_eq_ok] at read
    obtain ⟨_, room, ⟨operand, d'⟩, inner, e', negated, same⟩ := read
    cases same
    exact .negation room (smaller _ (Nat.lt_succ_self _) (.whole .unary) _ _ inner) negated
  · simp only [Production.run, Symbol.run_unary_of_ne negates] at read
    exact .positive negates (steps _ _ read)

theorem from_primary : From c (.whole .primary) := by
  intro e d read
  simp only [Production.run] at read
  cases single : atom? c.peek with
  | some atom =>
    obtain ⟨_ | ⟨⟨token, offset⟩, rest⟩, finish, depth⟩ := c
    · cases single
    replace single : atom? token = some atom := single
    rw [Symbol.run_atom offset rest finish depth single] at read
    cases read
    exact .atom single
  | none =>
    by_cases group : c.peek = .leftParen
    · obtain ⟨offset, rest, finish, depth, rfl⟩ := Cursor.exists_eq_cons group rfl
      simp only [Symbol.run_group, bind_eq_ok, pure_eq_ok, Cursor.deepen_eq_ok, expect_eq_ok,
        isRightParen_iff] at read
      obtain ⟨_, room, ⟨inner, d'⟩, read, d'', ⟨closes, rfl⟩, same⟩ := read
      cases same
      exact .group room (smaller _ (Nat.lt_succ_self _) (.whole .or) _ _ read) closes
    by_cases bracket : c.peek = .leftBracket
    · obtain ⟨offset, rest, finish, depth, rfl⟩ := Cursor.exists_eq_cons bracket rfl
      rw [Symbol.run_key] at read
      split at read
      · next name string =>
        obtain ⟨offset', rest, finish, depth, same⟩ := Cursor.exists_eq_cons string rfl
        cases same
        simp only [List.tail_cons, bind_eq_ok, pure_eq_ok, expect_eq_ok, isRightBracket_iff] at read
        obtain ⟨d', ⟨closes, rfl⟩, same⟩ := read
        cases same
        obtain ⟨offset'', rest, finish, depth, same⟩ := Cursor.exists_eq_cons closes rfl
        cases same
        exact .key
      · cases read
    rw [Symbol.run_unexpected single group bracket] at read
    cases read

end OfRun

/-- What a production reads, it reads in one of the ways of `Reads`. -/
theorem of_run {p : Production} {c d : Cursor} {e : Expr} (read : p.run c = .ok (e, d)) :
    Reads p c e d := by
  suffices all : ∀ n c, c.size = n → ∀ p, From c p from all _ c rfl p e d read
  intro n
  induction n using Nat.strongRecOn with
  | ind n ih =>
    rintro c rfl p
    have smaller (c' : Cursor) (less : c'.size < c.size) : ∀ p, From c' p := ih _ less c' rfl
    have primary := from_primary smaller
    have steps := from_chain smaller .steps primary
    have unary := from_unary smaller steps
    have sum := from_chain smaller .sum unary
    have comparison := from_comparison smaller sum
    have not := from_not smaller comparison
    have and := from_chain smaller .and not
    have or := from_chain smaller .or and
    obtain σ | ⟨σ, left⟩ := p
    · cases σ <;> assumption
    · exact from_links smaller σ left

/-- What is a reading, the production reads. -/
theorem run_eq {p : Production} {c d : Cursor} {e : Expr} (reads : Reads p c e d) :
    p.run c = .ok (e, d) := by
  induction reads with
  | chain chains first more ihFirst ihMore =>
    simp only [Production.run, Symbol.run_chain chains, bind_eq_ok, pure_eq_ok]
    exact ⟨_, ihFirst, _, ihMore, rfl⟩
  | alone ends => exact Symbol.links_alone ends _
  | join chains joins room operand more ihOperand ihMore =>
    simp only [Production.run, Symbol.links_join chains joins, bind_eq_ok, Cursor.deepen_eq_ok]
    exact ⟨(), room, _, ihOperand, ihMore⟩
  | member room more ihMore =>
    simp only [Production.run, Symbol.links_dot, bind_eq_ok, Cursor.deepen_eq_ok]
    exact ⟨(), room, ihMore⟩
  | index room inner closes more ihInner ihMore =>
    simp only [Production.run, Symbol.links_bracket, bind_eq_ok, Cursor.deepen_eq_ok, expect_eq_ok,
      isRightBracket_iff]
    exact ⟨(), Nat.lt_of_succ_lt room, (), room, _, ihInner, _, ⟨closes, rfl⟩, ihMore⟩
  | denial room inner ih =>
    simp only [Production.run, Symbol.run_denial, bind_eq_ok, pure_eq_ok, Cursor.deepen_eq_ok]
    exact ⟨(), room, _, ih, rfl⟩
  | affirmed plain inner ih => exact (Symbol.run_not_of_ne plain).trans ih
  | uncompared inner ends unmatched ih =>
    simp only [Production.run, Symbol.run_comparison, bind_eq_ok]
    refine ⟨_, ih, ?_⟩
    unfold Symbol.compared
    split
    · next isMatch => exact absurd isMatch unmatched
    · simp only [ends]
  | compared first compares second ihFirst ihSecond =>
    simp only [Production.run, Symbol.run_comparison, bind_eq_ok]
    refine ⟨_, ihFirst, ?_⟩
    unfold Symbol.compared
    split
    · next isMatch =>
      rw [isMatch] at compares
      cases compares
    · simp only [compares, bind_eq_ok, pure_eq_ok]
      exact ⟨_, ihSecond, rfl⟩
  | matched first compares second read ihFirst ihSecond =>
    simp only [Production.run, Symbol.run_comparison, bind_eq_ok]
    refine ⟨_, ihFirst, ?_⟩
    simp only [Symbol.compared, compares, bind_eq_ok, pure_eq_ok]
    exact ⟨_, ihSecond, _, read, rfl⟩
  | negation room inner negated ih =>
    simp only [Production.run, Symbol.run_negation, bind_eq_ok, pure_eq_ok, Cursor.deepen_eq_ok]
    exact ⟨(), room, _, ih, _, negated, rfl⟩
  | positive plain inner ih => exact (Symbol.run_unary_of_ne plain).trans ih
  | atom single => exact Symbol.run_atom _ _ _ _ single
  | group room inner closes ih =>
    simp only [Production.run, Symbol.run_group, bind_eq_ok, pure_eq_ok, Cursor.deepen_eq_ok,
      expect_eq_ok, isRightParen_iff]
    exact ⟨(), room, _, ih, _, ⟨closes, rfl⟩, rfl⟩
  | key => exact Symbol.run_key _ _ _ _

end Reads

end Remap.Expression
