import Remap.Expression.Basic
import Remap.Proofs.Expression.Grammar
import Remap.Proofs.Fallible

/-!
# Productions as equations

Each symbol of the grammar is read by a production of its own. `Symbol.run` is what a production
reads, without the proof that it reads something, and `Symbol.links` is what a symbol that chains
operands reads behind its first operand. Here each of them gets its equations, one for each way it
can go, so nothing that follows opens a production.
-/

namespace Remap.Expression

/-- What reading comes to: an expression and the cursor behind it, or an error. -/
abbrev Outcome := Except ParseError (Expr × Cursor)

/-- What was read, without the proof that something was. -/
def Parsed.pair {c : Cursor} (p : Parsed c) : Expr × Cursor := (p.expr, p.after)

/-- What was read behind an expression, without the proof that nothing was given back. -/
def Extended.pair {c : Cursor} (p : Extended c) : Expr × Cursor := (p.expr, p.after)

namespace Symbol

variable [Regex.Engine]

/-- What a symbol reads from a cursor on. -/
def run : Symbol → Cursor → Outcome
  | .or, c => (parseOr c).map Parsed.pair
  | .and, c => (parseAnd c).map Parsed.pair
  | .not, c => (parseNot c).map Parsed.pair
  | .comparison, c => (parseComparison c).map Parsed.pair
  | .sum, c => (parseSum c).map Parsed.pair
  | .unary, c => (parseUnary c).map Parsed.pair
  | .steps, c => (parsePostfix c).map Parsed.pair
  | .primary, c => (parsePrimary c).map Parsed.pair

/-- What a symbol that chains operands reads behind its first operand. -/
def links : Symbol → Expr → Cursor → Outcome
  | .or, left, c => (extendOr left c).map Extended.pair
  | .and, left, c => (extendAnd left c).map Extended.pair
  | .sum, left, c => (extendSum left c).map Extended.pair
  | .steps, left, c => (extendPostfix left c).map Extended.pair
  | _, left, c => .ok (left, c)

end Symbol

/-- Past a token that has to come next, without what that means for the number of tokens. -/
theorem expectAfter_eq (wanted : Token) (c : Cursor) (isWanted : Token → Bool) :
    (expectAfter wanted c isWanted).map Subtype.val = expect wanted c isWanted := by
  unfold expectAfter
  split
  · next passed => exact passed.symm
  · next failed => exact failed.symm

/-! ## Chains -/

/-- The tokens that a chain goes on with. -/
def Symbol.continues : Symbol → Token → Bool
  | .or, .or => true
  | .and, .and => true
  | .sum, .plus => true
  | .sum, .minus => true
  | .steps, .dot => true
  | .steps, .leftBracket => true
  | _, _ => false

namespace Symbol

variable {σ τ : Symbol}

section

variable [Regex.Engine]

/-- A chain is a first operand and what is behind it. The levels that its links opened are closed at
its end. -/
theorem run_chain (chains : Chains σ τ) (c : Cursor) : σ.run c = (do
    let (left, d) ← τ.run c
    let (e, d') ← σ.links left d
    return (e, d'.atDepth c.depth)) := by
  have erase {operand production : (c : Cursor) → Step c}
      {extend : Expr → (c : Cursor) → Except ParseError (Extended c)}
      (defined : production c = do
        let first ← operand c
        let chain ← extend first.expr first.after
        return first.close chain rfl) :
      (production c).map Parsed.pair = (do
        let (left, d) ← (operand c).map Parsed.pair
        let (e, d') ← (extend left d).map Extended.pair
        return (e, d'.atDepth c.depth)) := by
    rw [defined]
    cases operand c with
    | error => rfl
    | ok first =>
      simp only [bind, Except.bind, Except.map, Parsed.pair]
      cases extend first.expr first.after <;> rfl
  cases chains with
  | or => exact erase (by rw [parseOr])
  | and => exact erase (by rw [parseAnd])
  | sum => exact erase (by rw [parseSum])
  | steps => exact erase (by rw [parsePostfix])

/-- A sign that joins opens a level and is followed by one more operand. -/
theorem links_join {token : Token} {join : Expr → Expr → Expr} (chains : Chains σ τ)
    (joins : Joins σ token join) (left : Expr) (offset : Nat) (rest : List Lexeme)
    (finish depth : Nat) :
    σ.links left ⟨⟨token, offset⟩ :: rest, finish, depth⟩ = (do
      Cursor.deepen ⟨⟨token, offset⟩ :: rest, finish, depth⟩ offset
      let (right, d) ← τ.run ⟨rest, finish, depth + 1⟩
      σ.links (join left right) d) := by
  have erase {operand : (c : Cursor) → Step c}
      {extend : Expr → (c : Cursor) → Except ParseError (Extended c)}
      {noLonger : ∀ (right : Parsed ⟨rest, finish, depth + 1⟩) (chain : Extended right.after),
        chain.after.size ≤ Cursor.size ⟨⟨token, offset⟩ :: rest, finish, depth⟩}
      (defined : extend left ⟨⟨token, offset⟩ :: rest, finish, depth⟩ = do
        Cursor.deepen ⟨⟨token, offset⟩ :: rest, finish, depth⟩ offset
        let right ← operand ⟨rest, finish, depth + 1⟩
        let chain ← extend (join left right.expr) right.after
        return ⟨chain.expr, chain.after, noLonger right chain⟩) :
      (extend left ⟨⟨token, offset⟩ :: rest, finish, depth⟩).map Extended.pair = (do
        Cursor.deepen ⟨⟨token, offset⟩ :: rest, finish, depth⟩ offset
        let (right, d) ← (operand ⟨rest, finish, depth + 1⟩).map Parsed.pair
        (extend (join left right) d).map Extended.pair) := by
    rw [defined]
    cases Cursor.deepen ⟨⟨token, offset⟩ :: rest, finish, depth⟩ offset with
    | error => rfl
    | ok =>
      simp only [bind, Except.bind, Except.map, Parsed.pair]
      cases operand ⟨rest, finish, depth + 1⟩ with
      | error => rfl
      | ok right =>
        simp only
        cases extend (join left right.expr) right.after <;> rfl
  cases joins with
  | or =>
    cases chains
    exact erase (by rw [extendOr]; rfl)
  | and =>
    cases chains
    exact erase (by rw [extendAnd]; rfl)
  | plus =>
    cases chains
    exact erase (by rw [extendSum]; rfl)
  | minus =>
    cases chains
    exact erase (by rw [extendSum]; rfl)

/-- A chain ends before a token that does not go on with it. -/
theorem links_alone {c : Cursor} (ends : σ.continues c.peek = false) (left : Expr) :
    σ.links left c = .ok (left, c) := by
  obtain ⟨_ | ⟨⟨token, offset⟩, rest⟩, finish, depth⟩ := c
  · cases σ with
    | or => simp only [links]; rw [extendOr]; rfl
    | and => simp only [links]; rw [extendAnd]; rfl
    | sum => simp only [links]; rw [extendSum]; rfl
    | steps => simp only [links]; rw [extendPostfix]; rfl
    | _ => rfl
  · cases σ with
    | or =>
      cases token with
      | or => cases ends
      | _ => simp only [links]; rw [extendOr]; rfl
    | and =>
      cases token with
      | and => cases ends
      | _ => simp only [links]; rw [extendAnd]; rfl
    | sum =>
      cases token with
      | plus | minus => cases ends
      | _ => simp only [links]; rw [extendSum]; rfl
    | steps =>
      cases token with
      | dot | leftBracket => cases ends
      | _ => simp only [links]; rw [extendPostfix]; rfl
    | _ => rfl

/-! ## Steps behind an operand -/

section Steps

variable (target : Expr) (offset : Nat) (rest : List Lexeme) (finish depth : Nat)

theorem links_dot : steps.links target ⟨⟨.dot, offset⟩ :: rest, finish, depth⟩ = (do
    Cursor.deepen ⟨⟨.dot, offset⟩ :: rest, finish, depth⟩ offset
    match Cursor.peek ⟨rest, finish, depth + 1⟩ with
    | .identifier name => steps.links (.member target name) ⟨rest.tail, finish, depth + 1⟩
    | found => throw ⟨.expectedPropertyName found, Cursor.offset ⟨rest, finish, depth + 1⟩⟩) := by
  simp only [links]
  rw [extendPostfix]
  simp only [Cursor.deeper, Cursor.advance, List.tail_cons]
  cases Cursor.deepen ⟨⟨.dot, offset⟩ :: rest, finish, depth⟩ offset with
  | error => rfl
  | ok =>
    simp only [bind, Except.bind]
    cases Cursor.peek ⟨rest, finish, depth + 1⟩ with
    | identifier name =>
      simp only
      cases extendPostfix (.member target name) ⟨rest.tail, finish, depth + 1⟩ <;> rfl
    | _ => rfl

theorem links_bracket : steps.links target ⟨⟨.leftBracket, offset⟩ :: rest, finish, depth⟩ = (do
    Cursor.deepen ⟨⟨.leftBracket, offset⟩ :: rest, finish, depth⟩ offset
    Cursor.deepen ⟨⟨.leftBracket, offset⟩ :: rest, finish, depth + 1⟩ offset
    let (position, d) ← or.run ⟨rest, finish, depth + 2⟩
    let d ← expect .rightBracket d.shallower isRightBracket
    steps.links (.index target position) d) := by
  simp only [links, run]
  rw [extendPostfix]
  simp only [Cursor.deeper, Cursor.advance, List.tail_cons]
  cases Cursor.deepen ⟨⟨.leftBracket, offset⟩ :: rest, finish, depth⟩ offset with
  | error => rfl
  | ok =>
    simp only [bind, Except.bind]
    cases Cursor.deepen ⟨⟨.leftBracket, offset⟩ :: rest, finish, depth + 1⟩ offset with
    | error => rfl
    | ok =>
      simp only
      cases parseOr ⟨rest, finish, depth + 2⟩ with
      | error => rfl
      | ok position =>
        simp only [Except.map, Parsed.pair]
        rw [← expectAfter_eq]
        cases expectAfter .rightBracket position.after.shallower isRightBracket with
        | error => rfl
        | ok closed =>
          simp only [Except.map]
          cases extendPostfix (.index target position.expr) closed.1 <;> rfl

end Steps

/-! ## Operands -/

section Operands

variable (offset : Nat) (rest : List Lexeme) (finish depth : Nat)

theorem run_denial : not.run ⟨⟨.not, offset⟩ :: rest, finish, depth⟩ = (do
    Cursor.deepen ⟨⟨.not, offset⟩ :: rest, finish, depth⟩ offset
    let (operand, d) ← not.run ⟨rest, finish, depth + 1⟩
    return (.not operand, d.shallower)) := by
  simp only [run]
  rw [parseNot]
  simp only [Cursor.deeper, Cursor.advance, List.tail_cons]
  cases Cursor.deepen ⟨⟨.not, offset⟩ :: rest, finish, depth⟩ offset with
  | error => rfl
  | ok =>
    simp only [bind, Except.bind]
    cases parseNot ⟨rest, finish, depth + 1⟩ <;> rfl

theorem run_not_of_ne {c : Cursor} (other : c.peek ≠ .not) : not.run c = comparison.run c := by
  obtain ⟨_ | ⟨⟨token, offset⟩, rest⟩, finish, depth⟩ := c
  · simp only [run]
    rw [parseNot]
  · simp only [run]
    cases token with
    | not => exact absurd rfl other
    | _ => rw [parseNot]

/-- What follows the first sum of a comparison. -/
def compared (left : Expr) (c : Cursor) : Outcome :=
  match c.peek with
  | .matches => do
    let (right, d) ← sum.run c.advance
    let e ← matchExpr left right c.advance.offset
    return (e, d)
  | token =>
    match comparison? token with
    | some operator => do
      let (right, d) ← sum.run c.advance
      return (.binary operator left right, d)
    | none => .ok (left, c)

theorem run_comparison (c : Cursor) : comparison.run c = (do
    let (left, d) ← sum.run c
    compared left d) := by
  simp only [run]
  rw [parseComparison]
  cases parseSum c with
  | error => rfl
  | ok left =>
    obtain ⟨left, ⟨_ | ⟨⟨token, offset⟩, rest⟩, finish, depth⟩, shorter⟩ := left
    · rfl
    · simp only [bind, Except.bind, Except.map, Parsed.pair, compared, Cursor.peek]
      cases token with
      | «matches» =>
        simp only [run, Cursor.advance, List.tail_cons]
        cases parseSum ⟨rest, finish, depth⟩ with
        | error => rfl
        | ok right =>
          simp only [Except.map, Parsed.pair]
          cases matchExpr left right.expr (Cursor.offset ⟨rest, finish, depth⟩) <;> rfl
      | equal | notEqual | less | lessEqual | greater | greaterEqual =>
        simp only [comparison?, run, Cursor.advance, List.tail_cons]
        cases parseSum ⟨rest, finish, depth⟩ <;> rfl
      | _ => rfl

theorem run_negation : unary.run ⟨⟨.minus, offset⟩ :: rest, finish, depth⟩ = (do
    let c : Cursor := ⟨rest, finish, depth⟩
    c.deepen c.offset
    let (operand, d) ← unary.run c.deeper
    let e ← negation operand c.offset
    return (e, d.shallower)) := by
  simp only [run]
  rw [parseUnary]
  simp only [Cursor.deeper, Cursor.advance, List.tail_cons]
  cases Cursor.deepen ⟨rest, finish, depth⟩ (Cursor.offset ⟨rest, finish, depth⟩) with
  | error => rfl
  | ok =>
    simp only [bind, Except.bind]
    cases parseUnary ⟨rest, finish, depth + 1⟩ with
    | error => rfl
    | ok operand =>
      simp only [Except.map, Parsed.pair]
      cases negation operand.expr (Cursor.offset ⟨rest, finish, depth⟩) <;> rfl

theorem run_unary_of_ne {c : Cursor} (other : c.peek ≠ .minus) : unary.run c = steps.run c := by
  obtain ⟨_ | ⟨⟨token, offset⟩, rest⟩, finish, depth⟩ := c
  · simp only [run]
    rw [parseUnary]
  · simp only [run]
    cases token with
    | minus => exact absurd rfl other
    | _ => rw [parseUnary]

theorem run_atom {token : Token} {e : Expr} (single : atom? token = some e) :
    primary.run ⟨⟨token, offset⟩ :: rest, finish, depth⟩ = .ok (e, ⟨rest, finish, depth⟩) := by
  simp only [run]
  rw [parsePrimary]
  simp only [single]
  rfl

theorem run_group : primary.run ⟨⟨.leftParen, offset⟩ :: rest, finish, depth⟩ = (do
    Cursor.deepen ⟨rest, finish, depth⟩ offset
    let (e, d) ← or.run ⟨rest, finish, depth + 1⟩
    let d ← expect .rightParen d.shallower isRightParen
    return (e, d)) := by
  simp only [run]
  rw [parsePrimary]
  simp only [atom?, Cursor.deeper, Cursor.advance, List.tail_cons]
  cases Cursor.deepen ⟨rest, finish, depth⟩ offset with
  | error => rfl
  | ok =>
    simp only [bind, Except.bind]
    cases parseOr ⟨rest, finish, depth + 1⟩ with
    | error => rfl
    | ok inner =>
      simp only [Except.map, Parsed.pair]
      rw [← expectAfter_eq]
      cases expectAfter .rightParen inner.after.shallower isRightParen <;> rfl

theorem run_key : primary.run ⟨⟨.leftBracket, offset⟩ :: rest, finish, depth⟩ =
    match Cursor.peek ⟨rest, finish, depth⟩ with
    | .string key => do
      let d ← expect .rightBracket ⟨rest.tail, finish, depth⟩ isRightBracket
      return (.property key, d)
    | found => .error ⟨.expectedQuotedKey found, offset + 1⟩ := by
  simp only [run]
  rw [parsePrimary]
  simp only [atom?, Cursor.advance, List.tail_cons]
  cases Cursor.peek ⟨rest, finish, depth⟩ with
  | string key =>
    simp only
    rw [← expectAfter_eq]
    cases expectAfter .rightBracket ⟨rest.tail, finish, depth⟩ isRightBracket <;> rfl
  | _ => rfl

theorem run_unexpected {c : Cursor} (several : atom? c.peek = none) (group : c.peek ≠ .leftParen)
    (key : c.peek ≠ .leftBracket) :
    primary.run c = .error ⟨.unexpected c.peek, c.offset⟩ := by
  obtain ⟨_ | ⟨⟨token, offset⟩, rest⟩, finish, depth⟩ := c
  · simp only [run]
    rw [parsePrimary]
    rfl
  · simp only [run]
    rw [parsePrimary]
    cases token with
    | leftParen => exact absurd rfl group
    | leftBracket => exact absurd rfl key
    | _ => first | rfl | cases several

end Operands

/-! ## What is left -/

/-- A symbol leaves fewer tokens. -/
theorem shorter_of_run {c d : Cursor} {e : Expr} (h : σ.run c = .ok (e, d)) : d.size < c.size := by
  have erased {x : Step c} (h : x.map Parsed.pair = .ok (e, d)) : d.size < c.size := by
    cases x with
    | error => cases h
    | ok parsed => cases h; exact parsed.shorter
  cases σ <;> exact erased h

end

/-- The tokens that go on with a chain join its operands or are steps. -/
theorem joins_of_continues {token : Token} (goes : σ.continues token = true) :
    (∃ τ join, Chains σ τ ∧ Joins σ token join) ∨
      σ = steps ∧ (token = .dot ∨ token = .leftBracket) := by
  unfold continues at goes
  split at goes
  · exact .inl ⟨_, _, .or, .or⟩
  · exact .inl ⟨_, _, .and, .and⟩
  · exact .inl ⟨_, _, .sum, .plus⟩
  · exact .inl ⟨_, _, .sum, .minus⟩
  · exact .inr ⟨rfl, .inl rfl⟩
  · exact .inr ⟨rfl, .inr rfl⟩
  · cases goes

end Symbol

theorem Cursor.exists_eq_cons {c : Cursor} {token : Token} (next : c.peek = token)
    (inside : isFinish token = false) :
    ∃ offset rest finish depth, c = ⟨⟨token, offset⟩ :: rest, finish, depth⟩ := by
  obtain ⟨_ | ⟨⟨_, offset⟩, rest⟩, finish, depth⟩ := c
  · rw [← next] at inside
    cases inside
  · exact ⟨offset, rest, finish, depth, next ▸ rfl⟩

theorem Cursor.deepen_eq_ok {c : Cursor} {offset : Nat} {u : Unit} :
    c.deepen offset = .ok u ↔ c.depth < maxNesting := by
  unfold Cursor.deepen
  by_cases full : maxNesting ≤ c.depth
  · rw [if_pos full]
    exact iff_of_false nofun (Nat.not_lt.2 full)
  · rw [if_neg full]
    exact iff_of_true rfl (Nat.lt_of_not_le full)

theorem expect_eq_ok {wanted : Token} {c d : Cursor} {isWanted : Token → Bool} :
    expect wanted c isWanted = .ok d ↔ isWanted c.peek = true ∧ d = c.advance := by
  unfold expect
  by_cases passes : isWanted c.peek = true
  · rw [if_pos passes, Except.ok.injEq, and_iff_right passes, eq_comm]
  · rw [if_neg passes]
    exact iff_of_false nofun (fun both => passes both.1)

theorem isRightParen_iff {token : Token} : isRightParen token = true ↔ token = .rightParen := by
  cases token <;> simp [isRightParen]

theorem isRightBracket_iff {token : Token} :
    isRightBracket token = true ↔ token = .rightBracket := by
  cases token <;> simp [isRightBracket]

theorem isFinish_iff {token : Token} : isFinish token = true ↔ token = .finish := by
  cases token <;> simp [isFinish]

variable [Regex.Engine]

/-- The expression of all tokens is one of the loosest symbol with no token behind it. -/
theorem parseTokens_eq (tokens : List Lexeme) (finish : Nat) : parseTokens tokens finish = (do
    let (e, d) ← Symbol.or.run ⟨tokens, finish, 0⟩
    let _ ← expect .finish d isFinish
    return e) := by
  unfold parseTokens
  simp only [Symbol.run]
  cases parseOr ⟨tokens, finish, 0⟩ <;> rfl

/-- A text that gives tokens is read by them. -/
theorem parse_of_lexemes {text : String} {tokens : List Lexeme}
    (lexed : lexemes 0 (Text.trim text).toList = .ok tokens)
    (solid : (Text.trim text).toList ≠ []) :
    Expression.parse text =
      (parseTokens tokens (Text.trim text).toList.length).map (⟨Text.trim text, ·⟩) := by
  unfold Expression.parse
  simp only [List.isEmpty_iff, if_neg solid, lexed, bind, Except.bind]
  cases parseTokens tokens (Text.trim text).toList.length <;> rfl

/-- What a text that is read must be. -/
theorem parse_eq_ok {text : String} {e : Expression} :
    Expression.parse text = .ok e ↔ ∃ tokens tree, (Text.trim text).toList ≠ [] ∧
      lexemes 0 (Text.trim text).toList = .ok tokens ∧
      parseTokens tokens (Text.trim text).toList.length = .ok tree ∧
      e = ⟨Text.trim text, tree⟩ := by
  constructor
  · intro read
    by_cases solid : (Text.trim text).toList = []
    · unfold Expression.parse at read
      simp only [solid, List.isEmpty_nil, if_true] at read
      cases read
    cases lexed : lexemes 0 (Text.trim text).toList with
    | error failure =>
      unfold Expression.parse at read
      simp only [List.isEmpty_iff, if_neg solid, lexed] at read
      cases read
    | ok tokens =>
      rw [parse_of_lexemes lexed solid] at read
      cases tree : parseTokens tokens (Text.trim text).toList.length with
      | error => rw [tree] at read; cases read
      | ok tree' => rw [tree] at read; cases read; exact ⟨tokens, tree', solid, rfl, tree, rfl⟩
  · rintro ⟨tokens, tree, solid, lexed, read, rfl⟩
    rw [parse_of_lexemes lexed solid, read]
    rfl

end Remap.Expression
