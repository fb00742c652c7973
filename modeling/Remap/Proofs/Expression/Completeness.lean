import Remap.Proofs.Expression.Lexing
import Remap.Proofs.Expression.Soundness
import Remap.Regex.Reader

/-!
# What is derived is read

A symbol that derives tokens reads them off the front of whatever follows, if what follows cannot
go on with it, and what it reads is the derived tree with its patterns read. Two things can come in
between: a level too many, or a literal pattern that is no regular expression. `Follows` leaves room
for both. Each level is opened at a token of its own, so few tokens never open too many.

The rules have the chain on the left, the reader starts it at its first operand. So the induction is
on what a chain has read up to some operand and goes on with behind it (`Begins`); with what follows
at the end of the chain this is what the symbol reads (`Runs`).
-/

namespace Remap.Expression

/-! ## Outcomes that follow a tree -/

/-- The outcome is what `next` makes of what reading the patterns of a tree gives. A pattern that
cannot be read is reported, and so is a level too many. Some number of levels suffices, so that can
only be if these are too many. -/
inductive Follows {α β : Type} (levels : Nat) : Except BadPattern α →
    (α → Except ParseError β) → Except ParseError β → Prop
  | tooDeep {y : Except BadPattern α} {next : α → Except ParseError β} (offset : Nat)
    (deep : maxNesting < levels) : Follows levels y next (.error ⟨.nestedTooDeeply, offset⟩)
  | read {a : α} {next : α → Except ParseError β} : Follows levels (.ok a) next (next a)
  | badPattern {bad : BadPattern} {next : α → Except ParseError β} (offset : Nat) :
    Follows levels (.error bad) next (.error ⟨.invalidPattern bad.1 bad.2, offset⟩)

namespace Follows

variable {α β γ : Type} {levels : Nat} {y : Except BadPattern α} {next : α → Except ParseError β}
  {x : Except ParseError β}

theorem mono {more : Nat} (follows : Follows levels y next x) (le : levels ≤ more) :
    Follows more y next x := by
  cases follows with
  | tooDeep offset deep => exact .tooDeep offset (Nat.lt_of_lt_of_le deep le)
  | read => exact .read
  | badPattern offset => exact .badPattern offset

/-- What comes next goes on. -/
theorem bind (follows : Follows levels y next x) (more : β → Except ParseError γ) :
    Follows levels y (fun a => next a >>= more) (x >>= more) := by
  cases follows with
  | tooDeep offset deep => exact .tooDeep offset deep
  | @read a => exact @Follows.read α γ levels a fun a => next a >>= more
  | badPattern offset => exact .badPattern offset

/-- One part of a tree and then another one. -/
theorem trans {z : α → Except BadPattern γ} {next' : γ → Except ParseError β}
    (follows : Follows levels y next x)
    (onward : ∀ a, y = .ok a → Follows levels (z a) next' (next a)) :
    Follows levels (y >>= z) next' x := by
  cases follows with
  | tooDeep offset deep => exact .tooDeep offset deep
  | read => exact onward _ rfl
  | badPattern offset => exact .badPattern offset

/-- A level that is opened first. -/
theorem deepen (follows : Follows levels y next x) {c : Cursor} (inside : c.depth < levels)
    (offset : Nat) : Follows levels y next (do c.deepen offset; x) := by
  unfold Cursor.deepen
  by_cases full : maxNesting ≤ c.depth
  · rw [if_pos full]
    exact .tooDeep offset (Nat.lt_of_le_of_lt full inside)
  · rw [if_neg full]
    exact follows

end Follows

/-! ## What cannot go on with a symbol -/

/-- How tightly a symbol holds its operands together. -/
def Symbol.level : Symbol → Nat
  | .primary => 0
  | .steps | .unary => 1
  | .sum => 2
  | .comparison | .not => 3
  | .and => 4
  | .or => 5

/-- How tightly a token holds what is before it. -/
def Token.level : Token → Nat
  | .dot | .leftBracket => 1
  | .plus | .minus => 2
  | .equal | .notEqual | .less | .lessEqual | .greater | .greaterEqual | .matches => 3
  | .and => 4
  | .or => 5
  | _ => 6

variable {σ τ : Symbol} {token : Token}

theorem Chains.level_lt (chains : Chains σ τ) : τ.level < σ.level := by
  cases chains <;> decide

theorem Joins.level_eq {join : Expr → Expr → Expr} (joins : Joins σ token join) :
    token.level = σ.level := by
  cases joins <;> rfl

theorem Compares.level_eq {operator : Operator} (compares : Compares token operator) :
    token.level = 3 := by
  cases compares <;> rfl

/-- A token that holds looser than a symbol does not go on with it. -/
theorem Symbol.continues_eq_false (looser : σ.level < token.level) : σ.continues token = false := by
  rw [Bool.eq_false_iff]
  intro goes
  obtain ⟨τ, join, chains, joins⟩ | ⟨rfl, rfl | rfl⟩ := Symbol.joins_of_continues goes
  · rw [joins.level_eq] at looser
    exact absurd looser (Nat.lt_irrefl _)
  · exact absurd looser (by decide)
  · exact absurd looser (by decide)

/-- What is derived starts with a sign only where a rule has it. -/
theorem Derives.starts {w : List Token} {t : Expr} (derives : Derives σ w t) :
    ∃ token v, w = token :: v ∧ (token = .not → σ = .or ∨ σ = .and ∨ σ = .not) ∧
      (token = .minus → σ ≠ .steps ∧ σ ≠ .primary) := by
  induction derives with
  | operand chains only ih =>
    obtain ⟨token, v, rfl, denies, negates⟩ := ih
    refine ⟨token, v, rfl, ?_, ?_⟩
    · intro same
      cases chains <;> simp_all
    · intro same
      cases chains <;> simp_all
  | join chains joins left right ihLeft ihRight =>
    obtain ⟨token, v, rfl, starts⟩ := ihLeft
    exact ⟨token, _, rfl, starts⟩
  | denial => exact ⟨_, _, rfl, fun _ => .inr (.inr rfl), nofun⟩
  | affirmed inner ih =>
    obtain ⟨token, v, rfl, denies, negates⟩ := ih
    exact ⟨token, v, rfl, fun _ => .inr (.inr rfl), fun _ => ⟨nofun, nofun⟩⟩
  | uncompared inner ih =>
    obtain ⟨token, v, rfl, denies, negates⟩ := ih
    exact ⟨token, v, rfl, fun same => by simpa using denies same, fun _ => ⟨nofun, nofun⟩⟩
  | compared compares left right ihLeft ihRight =>
    obtain ⟨token, v, rfl, denies, negates⟩ := ihLeft
    exact ⟨token, _, rfl, fun same => by simpa using denies same, fun _ => ⟨nofun, nofun⟩⟩
  | matched left right ihLeft ihRight =>
    obtain ⟨token, v, rfl, denies, negates⟩ := ihLeft
    exact ⟨token, _, rfl, fun same => by simpa using denies same, fun _ => ⟨nofun, nofun⟩⟩
  | negation => exact ⟨_, _, rfl, nofun, fun _ => ⟨nofun, nofun⟩⟩
  | positive inner ih =>
    obtain ⟨token, v, rfl, denies, negates⟩ := ih
    exact ⟨token, _, rfl, fun same => by simpa using denies same, fun _ => ⟨nofun, nofun⟩⟩
  | member left ih =>
    obtain ⟨token, v, rfl, starts⟩ := ih
    exact ⟨token, _, rfl, starts⟩
  | index left inner ih =>
    obtain ⟨token, v, rfl, starts⟩ := ih
    exact ⟨token, _, rfl, starts⟩
  | atom single => exact ⟨_, _, rfl, by cases single <;> simp, by cases single <;> simp⟩
  | group => exact ⟨_, _, rfl, nofun, nofun⟩
  | key => exact ⟨_, _, rfl, nofun, nofun⟩

/-! ## Completeness -/

/-- The cursor with tokens before it. -/
def Cursor.before (c : Cursor) (ls : List Lexeme) : Cursor := { c with rest := ls ++ c.rest }

theorem Cursor.before_append (c : Cursor) (ls ls' : List Lexeme) :
    c.before (ls ++ ls') = (c.before ls').before ls := by
  rw [before, List.append_assoc]
  rfl

theorem exists_of_tokensOf_eq {ls : List Lexeme} {w v : List Token}
    (same : tokensOf ls = w ++ token :: v) : ∃ before offset after,
      ls = before ++ ⟨token, offset⟩ :: after ∧ tokensOf before = w ∧ tokensOf after = v := by
  obtain ⟨before, rest, rfl, first, second⟩ := List.map_eq_append_iff.mp same
  obtain ⟨⟨_, offset⟩, after, rfl, rfl, third⟩ := List.map_eq_cons_iff.mp second
  exact ⟨before, offset, after, rfl, first, third⟩

/-- Neither side of a comparison needs more levels than the whole. -/
theorem levels_le (c : Cursor) (before : List Lexeme) (sign : Lexeme) (after : List Lexeme) :
    c.depth + before.length ≤ c.depth + (before ++ sign :: after).length ∧
      c.depth + after.length ≤ c.depth + (before ++ sign :: after).length := by
  rw [List.length_append, List.length_cons]
  omega

theorem Chains.unique {τ' : Symbol} (chains : Chains σ τ) (chains' : Chains σ τ') : τ = τ' := by
  cases chains <;> cases chains' <;> rfl

section

variable [Regex.Engine]

/-- The symbol reads the tokens as the tree before whatever cannot go on with it. -/
def Runs (σ : Symbol) (w : List Token) (t : Expr) : Prop :=
  ∀ (ls : List Lexeme) (c : Cursor), tokensOf ls = w → σ.level < c.peek.level →
    Follows (c.depth + ls.length) t.withRegexes (fun e => .ok (e, c)) (σ.run (c.before ls))

/-- The chain reads the tokens as the tree and goes on behind it, maybe with more levels, but at
most one for each token. -/
def Begins (σ τ : Symbol) (w : List Token) (t : Expr) : Prop :=
  ∀ (ls : List Lexeme) (c : Cursor), tokensOf ls = w → τ.level < c.peek.level →
    ∃ k ≤ ls.length, Follows (c.depth + ls.length) t.withRegexes
      (fun e => σ.links e (c.atDepth (c.depth + k))) (do
        let (left, d) ← τ.run (c.before ls)
        σ.links left d)

/-- A chain that cannot go on is read. -/
theorem Begins.runs {w : List Token} {t : Expr} (chains : Chains σ τ)
    (begins : Begins σ τ w t) : Runs σ w t := by
  intro ls c same looser
  obtain ⟨k, -, follows⟩ := begins ls c same (Nat.lt_trans chains.level_lt looser)
  rw [Symbol.run_chain chains]
  have closed := follows.bind fun (e, d') => .ok (e, d'.atDepth c.depth)
  have alone (e : Expr) : σ.links e (c.atDepth (c.depth + k)) = .ok (e, c.atDepth (c.depth + k)) :=
    Symbol.links_alone (c := c.atDepth (c.depth + k)) (Symbol.continues_eq_false looser) e
  simp only [alone, bind_assoc] at closed
  exact closed

/-- An operand begins a chain. -/
theorem Runs.begins {w : List Token} {t : Expr} (runs : Runs τ w t) :
    Begins σ τ w t := by
  intro ls c same looser
  exact ⟨0, Nat.zero_le _, (runs ls c same looser).bind fun (left, d) => σ.links left d⟩

/-- A chain goes on with one more operand. -/
theorem Begins.join {join : Expr → Expr → Expr} {w v : List Token} {l r : Expr}
    (chains : Chains σ τ) (joins : Joins σ token join) (left : Begins σ τ w l)
    (right : Runs τ v r) : Begins σ τ (w ++ token :: v) (join l r) := by
  intro ls c same looser
  obtain ⟨before, offset, after, rfl, first, second⟩ := exists_of_tokensOf_eq same
  obtain ⟨k, few, follows⟩ := left before (c.before (⟨token, offset⟩ :: after)) first
    (joins.level_eq ▸ chains.level_lt)
  have size : (before ++ ⟨token, offset⟩ :: after).length = before.length + after.length + 1 := by
    simp [Nat.add_assoc]
  refine ⟨k + 1, by omega, ?_⟩
  rw [joins.withRegexes_eq, Cursor.before_append, size]
  have chain : c.depth + before.length ≤ c.depth + (before.length + after.length + 1) := by omega
  refine (follows.mono chain).trans fun e _ => ?_
  have link := Symbol.links_join chains joins e offset (after ++ c.rest) c.finish (c.depth + k)
  have inner : c.depth + k + 1 + after.length ≤ c.depth + (before.length + after.length + 1) := by
    omega
  have operand := ((right after (c.atDepth (c.depth + k + 1)) second looser).mono inner).bind
    fun (e', d) => σ.links (join e e') d
  have inside : c.depth + k < c.depth + (before.length + after.length + 1) := by omega
  refine link ▸ Follows.deepen ?_ inside _
  exact operand.trans fun e' _ => .read

/-- A step to a member. -/
theorem Begins.member {w : List Token} {target : Expr} {name : String}
    (left : Begins .steps .primary w target) :
    Begins .steps .primary (w ++ [.dot, .identifier name]) (.member target name) := by
  intro ls c same looser
  obtain ⟨before, offset, after, rfl, first, second⟩ := exists_of_tokensOf_eq same
  obtain ⟨⟨_, offset'⟩, _, rfl, rfl, third⟩ := List.map_eq_cons_iff.mp second
  obtain rfl := List.map_eq_nil_iff.mp third
  obtain ⟨k, few, follows⟩ := left before
    (c.before [⟨.dot, offset⟩, ⟨.identifier name, offset'⟩]) first Nat.zero_lt_one
  have size : (before ++ [Lexeme.mk .dot offset, ⟨.identifier name, offset'⟩]).length =
      before.length + 2 := by simp
  refine ⟨k + 1, by omega, ?_⟩
  rw [Expr.withRegexes, Cursor.before_append, size]
  have chain : c.depth + before.length ≤ c.depth + (before.length + 2) := by omega
  refine (follows.mono chain).trans fun e _ => ?_
  have step := Symbol.links_dot e offset (⟨.identifier name, offset'⟩ :: c.rest) c.finish
    (c.depth + k)
  have inside : c.depth + k < c.depth + (before.length + 2) := by omega
  exact step ▸ Follows.deepen .read inside _

/-- A step to an element. -/
theorem Begins.index {w v : List Token} {target position : Expr}
    (left : Begins .steps .primary w target) (inner : Runs .or v position) :
    Begins .steps .primary (w ++ .leftBracket :: (v ++ [.rightBracket]))
      (.index target position) := by
  intro ls c same looser
  obtain ⟨before, offset, rest, rfl, first, second⟩ := exists_of_tokensOf_eq same
  obtain ⟨after, offset', more, rfl, inside, third⟩ := exists_of_tokensOf_eq second
  obtain rfl := List.map_eq_nil_iff.mp third
  have placed : c.before (⟨.leftBracket, offset⟩ :: (after ++ [⟨.rightBracket, offset'⟩])) =
      ⟨⟨.leftBracket, offset⟩ :: (after ++ ⟨.rightBracket, offset'⟩ :: c.rest), c.finish,
        c.depth⟩ := by
    simp [Cursor.before]
  obtain ⟨k, few, follows⟩ := left before
    ⟨⟨.leftBracket, offset⟩ :: (after ++ ⟨.rightBracket, offset'⟩ :: c.rest), c.finish, c.depth⟩
    first Nat.zero_lt_one
  have size : (before ++ Lexeme.mk .leftBracket offset ::
      (after ++ [⟨.rightBracket, offset'⟩])).length = before.length + after.length + 2 := by
    simp [Nat.add_assoc]
  refine ⟨k + 1, by omega, ?_⟩
  rw [Expr.withRegexes, Cursor.before_append, placed, size]
  have chain : c.depth + before.length ≤ c.depth + (before.length + after.length + 2) := by omega
  refine (follows.mono chain).trans fun e _ => ?_
  have step := Symbol.links_bracket e offset (after ++ ⟨.rightBracket, offset'⟩ :: c.rest) c.finish
    (c.depth + k)
  have between : c.depth + k + 2 + after.length ≤
      c.depth + (before.length + after.length + 2) := by omega
  have closed := ((inner after ⟨⟨.rightBracket, offset'⟩ :: c.rest, c.finish, c.depth + k + 2⟩
    inside (Nat.lt_succ_self 5)).mono between).bind fun (e', d) => do
      let d ← expect .rightBracket d.shallower isRightBracket
      Symbol.steps.links (.index e e') d
  have room : c.depth + k + 1 < c.depth + (before.length + after.length + 2) := by omega
  refine step ▸ Follows.deepen (Follows.deepen ?_ room _) (Nat.lt_of_succ_lt room) _
  exact closed.trans fun e' _ => .read

/-! ### Symbols that do not chain -/

/-- What follows a sum that is not compared is left. -/
theorem Symbol.compared_alone {c : Cursor} (looser : 3 < c.peek.level)
    (left : Expr) : Symbol.compared left c = .ok (left, c) := by
  unfold Symbol.compared
  cases next : c.peek <;> first | rfl | (rw [next] at looser; exact absurd looser (by decide))

/-- The other sum of a comparison is read behind its sign. -/
theorem Symbol.compared_sign {operator : Operator} (compares : Compares token operator)
    (left : Expr) (offset : Nat) (c : Cursor) :
    Symbol.compared left (c.before [⟨token, offset⟩]) = (do
      let (right, d) ← Symbol.sum.run c
      return (.binary operator left right, d)) := by
  cases compares <;> rfl

theorem Runs.denial {w : List Token} {t : Expr} (inner : Runs .not w t) :
    Runs .not (.not :: w) (.not t) := by
  intro ls c same looser
  obtain ⟨⟨_, offset⟩, after, rfl, rfl, rest⟩ := List.map_eq_cons_iff.mp same
  rw [Expr.withRegexes]
  have step := Symbol.run_denial offset (after ++ c.rest) c.finish c.depth
  have levels : c.depth + 1 + after.length ≤ c.depth + (after.length + 1) := by omega
  have denied := ((inner after (c.atDepth (c.depth + 1)) rest looser).mono levels).bind
    fun (e, d) => .ok (Expr.not e, d.shallower)
  refine step ▸ Follows.deepen ?_ (Nat.lt_add_of_pos_right (Nat.succ_pos _)) _
  exact denied.trans fun e _ => .read

theorem Runs.affirmed {w : List Token} {t : Expr} (derives : Derives .comparison w t)
    (inner : Runs .comparison w t) : Runs .not w t := by
  intro ls c same looser
  obtain ⟨first, v, rfl, denies, -⟩ := derives.starts
  obtain ⟨⟨_, offset⟩, after, rfl, rfl, rest⟩ := List.map_eq_cons_iff.mp same
  rw [Symbol.run_not_of_ne fun denial => by simpa using denies denial]
  exact inner _ c same looser

theorem Runs.uncompared {w : List Token} {t : Expr} (inner : Runs .sum w t) :
    Runs .comparison w t := by
  intro ls c same looser
  rw [Symbol.run_comparison]
  have ends := (inner ls c same (Nat.lt_of_succ_lt looser)).bind fun (e, d) => Symbol.compared e d
  simpa only [bind, Except.bind, Symbol.compared_alone looser] using ends

theorem Runs.compared {operator : Operator} {w v : List Token} {l r : Expr}
    (compares : Compares token operator) (left : Runs .sum w l) (right : Runs .sum v r) :
    Runs .comparison (w ++ token :: v) (.binary operator l r) := by
  intro ls c same looser
  obtain ⟨before, offset, after, rfl, first, second⟩ := exists_of_tokensOf_eq same
  have level : Symbol.sum.level < token.level := compares.level_eq ▸ Nat.lt_succ_self 2
  obtain ⟨leftLevels, rightLevels⟩ := levels_le c before ⟨token, offset⟩ after
  have follows := ((left before ((c.before after).before [⟨token, offset⟩]) first level).mono
    leftLevels).bind fun (e, d) => Symbol.compared e d
  rw [Symbol.run_comparison, Expr.withRegexes, Cursor.before_append]
  refine follows.trans fun e _ => ?_
  have sign := Symbol.compared_sign compares e offset (c.before after)
  have operand := ((right after c second (Nat.lt_of_succ_lt looser)).mono rightLevels).bind
    fun (e', d) => .ok (Expr.binary operator e e', d)
  change Follows _ _ _ (Symbol.compared e _)
  rw [sign]
  exact operand.trans fun e' _ => .read

theorem Runs.matched {w v : List Token} {subject pattern : Expr} (left : Runs .sum w subject)
    (right : Runs .sum v pattern) :
    Runs .comparison (w ++ .matches :: v) (.matchesDynamic subject pattern) := by
  intro ls c same looser
  obtain ⟨before, offset, after, rfl, first, second⟩ := exists_of_tokensOf_eq same
  obtain ⟨leftLevels, rightLevels⟩ := levels_le c before ⟨.matches, offset⟩ after
  have follows := ((left before ((c.before after).before [⟨.matches, offset⟩]) first
    (Nat.lt_succ_self 2)).mono leftLevels).bind fun (e, d) => Symbol.compared e d
  rw [Symbol.run_comparison, Expr.withRegexes, Cursor.before_append]
  refine follows.trans fun e _ => ?_
  have operand := ((right after c second (Nat.lt_of_succ_lt looser)).mono rightLevels).bind
    fun (e', d) => do
      let matched ← matchExpr e e' (c.before after).offset
      return (matched, d)
  refine operand.trans fun e' _ => ?_
  simp only [bind, Except.bind, matchExpr_eq]
  cases e.matching e' with
  | error bad => exact .badPattern _
  | ok matched => exact .read

theorem Runs.negation {w : List Token} {t t' : Expr} (inner : Runs .unary w t)
    (negates : Negates t t') : Runs .unary (.minus :: w) t' := by
  intro ls c same looser
  obtain ⟨⟨_, offset⟩, after, rfl, rfl, rest⟩ := List.map_eq_cons_iff.mp same
  obtain ⟨f, reads, negates⟩ := negates.exists_map
  have step := Symbol.run_negation offset (after ++ c.rest) c.finish c.depth
  have levels : c.depth + 1 + after.length ≤ c.depth + (after.length + 1) := by omega
  have negated := ((inner after (c.atDepth (c.depth + 1)) rest looser).mono levels).bind
    fun (e, d) => do
      let e' ← Expression.negation e (c.before after).offset
      return (e', d.shallower)
  rw [reads]
  refine step ▸ Follows.deepen ?_ (Nat.lt_add_of_pos_right (Nat.succ_pos _)) _
  refine negated.trans fun e read => ?_
  have folded : Expression.negation e (c.before after).offset = .ok (f e) :=
    negation_eq_ok.mpr (negates e read)
  simp only [bind, Except.bind, folded]
  exact .read

theorem Runs.positive {w : List Token} {t : Expr} (derives : Derives .steps w t)
    (inner : Runs .steps w t) : Runs .unary w t := by
  intro ls c same looser
  obtain ⟨first, v, rfl, -, negates⟩ := derives.starts
  obtain ⟨⟨_, offset⟩, after, rfl, rfl, rest⟩ := List.map_eq_cons_iff.mp same
  have plain : (c.before (⟨_, offset⟩ :: after)).peek ≠ .minus := fun minus => (negates minus).1 rfl
  rw [Symbol.run_unary_of_ne plain]
  exact inner _ c same looser

theorem Runs.atom {t : Expr} (single : Atom token t) : Runs .primary [token] t := by
  intro ls c same looser
  obtain ⟨⟨_, offset⟩, _, rfl, rfl, rest⟩ := List.map_eq_cons_iff.mp same
  obtain rfl := List.map_eq_nil_iff.mp rest
  have read := Symbol.run_atom offset c.rest c.finish c.depth (atom?_eq_some_iff.mpr single)
  have plain : t.withRegexes = .ok t := by cases single <;> rfl
  rw [plain]
  exact read ▸ .read

theorem Runs.group {w : List Token} {t : Expr} (inner : Runs .or w t) :
    Runs .primary (.leftParen :: (w ++ [.rightParen])) t := by
  intro ls c same looser
  obtain ⟨⟨_, offset⟩, rest, rfl, rfl, second⟩ := List.map_eq_cons_iff.mp same
  obtain ⟨after, offset', more, rfl, inside, third⟩ := exists_of_tokensOf_eq second
  obtain rfl := List.map_eq_nil_iff.mp third
  have placed : c.before (⟨.leftParen, offset⟩ :: (after ++ [⟨.rightParen, offset'⟩])) =
      ⟨⟨.leftParen, offset⟩ :: (after ++ ⟨.rightParen, offset'⟩ :: c.rest), c.finish, c.depth⟩ := by
    simp [Cursor.before]
  have step := Symbol.run_group offset (after ++ ⟨.rightParen, offset'⟩ :: c.rest) c.finish c.depth
  have size : (Lexeme.mk .leftParen offset :: (after ++ [⟨.rightParen, offset'⟩])).length =
      after.length + 2 := by simp
  have levels : c.depth + 1 + after.length ≤ c.depth + (after.length + 2) := by omega
  have closed := ((inner after ⟨⟨.rightParen, offset'⟩ :: c.rest, c.finish, c.depth + 1⟩ inside
    (Nat.lt_succ_self 5)).mono levels).bind fun (e, d) => do
      let d ← expect .rightParen d.shallower isRightParen
      return (e, d)
  rw [placed, size]
  exact step ▸ closed.deepen (Nat.lt_add_of_pos_right (Nat.succ_pos _)) _

theorem Runs.key {name : String} :
    Runs .primary [.leftBracket, .string name, .rightBracket] (.property name) := by
  intro ls c same looser
  obtain ⟨⟨_, offset⟩, _, rfl, rfl, second⟩ := List.map_eq_cons_iff.mp same
  obtain ⟨⟨_, offset'⟩, _, rfl, rfl, third⟩ := List.map_eq_cons_iff.mp second
  obtain ⟨⟨_, offset''⟩, _, rfl, rfl, fourth⟩ := List.map_eq_cons_iff.mp third
  obtain rfl := List.map_eq_nil_iff.mp fourth
  have read := Symbol.run_key offset
    (⟨.string name, offset'⟩ :: ⟨.rightBracket, offset''⟩ :: c.rest) c.finish c.depth
  exact read ▸ .read

/-! ### All rules -/

/-- What is derived is read, and if its symbol chains operands, it begins a longer chain too. -/
def Completes (σ : Symbol) (w : List Token) (t : Expr) : Prop :=
  (∀ τ, Chains σ τ → Begins σ τ w t) ∧ Runs σ w t

theorem Completes.of_begins {w : List Token} {t : Expr} (chains : Chains σ τ)
    (begins : Begins σ τ w t) : Completes σ w t :=
  ⟨fun _ chains' => chains.unique chains' ▸ begins, begins.runs chains⟩

theorem Completes.of_runs {w : List Token} {t : Expr} (single : ∀ τ, ¬ Chains σ τ)
    (runs : Runs σ w t) : Completes σ w t :=
  ⟨fun τ chains => absurd chains (single τ), runs⟩

theorem Derives.completes {w : List Token} {t : Expr} (derives : Derives σ w t) :
    Completes σ w t := by
  induction derives with
  | operand chains only ih => exact .of_begins chains ih.2.begins
  | join chains joins left right ihLeft ihRight =>
    exact .of_begins chains ((ihLeft.1 _ chains).join chains joins ihRight.2)
  | denial inner ih => exact .of_runs nofun ih.2.denial
  | affirmed inner ih => exact .of_runs nofun (ih.2.affirmed inner)
  | uncompared inner ih => exact .of_runs nofun ih.2.uncompared
  | compared compares left right ihLeft ihRight =>
    exact .of_runs nofun (ihLeft.2.compared compares ihRight.2)
  | matched left right ihLeft ihRight => exact .of_runs nofun (ihLeft.2.matched ihRight.2)
  | negation inner negates ih => exact .of_runs nofun (ih.2.negation negates)
  | positive inner ih => exact .of_runs nofun (ih.2.positive inner)
  | member left ih => exact .of_begins .steps (ih.1 _ .steps).member
  | index left inner ihLeft ihInner =>
    exact .of_begins .steps ((ihLeft.1 _ .steps).index ihInner.2)
  | atom single => exact .of_runs nofun (.atom single)
  | group inner ih => exact .of_runs nofun ih.2.group
  | key => exact .of_runs nofun .key

/-! ## The reader and the grammar -/

/-- Tokens that are derived are read to their end. -/
theorem Derives.follows_parseTokens {ls : List Lexeme} {t : Expr}
    (derives : Derives .or (tokensOf ls) t) (finish : Nat) :
    Follows ls.length t.withRegexes .ok (parseTokens ls finish) := by
  have whole := (derives.completes.2 ls ⟨[], finish, 0⟩ rfl (Nat.lt_succ_self 5)).bind
    fun (e, d) => do
      let _ ← expect .finish d isFinish
      return e
  rw [Cursor.before, List.append_nil, Nat.zero_add] at whole
  rw [parseTokens_eq]
  exact whole

/-- Tokens that are read to their end are derived. -/
theorem denotes_of_parseTokens {ls : List Lexeme} {finish : Nat} {e : Expr}
    (inside : ∀ l ∈ ls, l.token ≠ .finish) (read : parseTokens ls finish = .ok e) :
    Denotes .or (tokensOf ls) e := by
  simp only [parseTokens_eq, bind_eq_ok, pure_eq_ok, expect_eq_ok, isFinish_iff] at read
  obtain ⟨⟨e', d⟩, whole, _, ⟨ended, -⟩, rfl⟩ := read
  obtain ⟨taken, same, denotes⟩ := (Reads.of_run (p := .whole .or) whole).sound
  obtain rfl : ls = taken ++ d.rest := same
  cases left : d.rest with
  | nil =>
    rwa [List.append_nil]
  | cons l more =>
    have last : l.token = .finish := by rwa [Cursor.peek, left] at ended
    have member : l ∈ d.rest := left ▸ List.mem_cons_self
    exact absurd last (inside l (List.mem_append_right taken member))

/-- The reader accepts the grammar. What a text is read as, the grammar derives from its tokens,
and what the grammar derives from its tokens, the text is read as. Only trees with a literal pattern
that is no regular expression are not read, and trees that are nested too deeply; those have more
tokens than there may be levels. -/
theorem parse_accepts_grammar {text : String} {tokens : List Lexeme}
    (lexed : lexemes 0 (Text.trim text).toList = .ok tokens) :
    (∀ e, Expression.parse text = .ok e →
      e.text = Text.trim text ∧ Denotes .or (tokensOf tokens) e.tree) ∧
    ∀ t, Derives .or (tokensOf tokens) t →
      (∃ offset, maxNesting < tokens.length ∧
        Expression.parse text = .error ⟨.nestedTooDeeply, offset⟩) ∨
      (∃ tree, t.withRegexes = .ok tree ∧
        Expression.parse text = .ok ⟨Text.trim text, tree⟩) ∨
      ∃ pattern cause offset, t.withRegexes = .error (pattern, cause) ∧
        Expression.parse text = .error ⟨.invalidPattern pattern cause, offset⟩ := by
  constructor
  · intro e parsed
    obtain ⟨tokens', tree, -, lexed', read, rfl⟩ := parse_eq_ok.mp parsed
    obtain rfl : tokens' = tokens := Except.ok.inj (lexed'.symm.trans lexed)
    exact ⟨rfl, denotes_of_parseTokens (ne_finish_of_lexemes lexed) read⟩
  · intro t derives
    have solid : (Text.trim text).toList ≠ [] := by
      intro empty
      rw [empty, lexemes] at lexed
      cases lexed
      obtain ⟨_, _, none, -⟩ := derives.starts
      cases none
    rw [parse_of_lexemes lexed solid]
    have follows := derives.follows_parseTokens (Text.trim text).toList.length
    generalize parseTokens tokens (Text.trim text).toList.length = x at follows
    generalize t.withRegexes = y at follows
    cases follows with
    | tooDeep offset deep => exact .inl ⟨offset, by simpa using deep, rfl⟩
    | read => exact .inr (.inl ⟨_, rfl, rfl⟩)
    | badPattern offset => exact .inr (.inr ⟨_, _, offset, rfl, rfl⟩)

end

/-- The minus of a literal belongs to it, and the comparison is of two operands. -/
theorem parse_accepts_negative :
    lexemes 0 (Text.trim " -2 < x ").toList = .ok [⟨.minus, 0⟩,
      ⟨.integer ⟨2, by decide, by decide⟩, 1⟩, ⟨.less, 3⟩, ⟨.identifier "x", 5⟩] ∧
    Expression.parse " -2 < x " = .ok ⟨"-2 < x",
      .binary .less (.literal (.integer ⟨-2, by decide, by decide⟩)) (.property "x")⟩ := by
  have trimmed : Text.trim " -2 < x " = "-2 < x" := by decide +kernel
  have characters : "-2 < x".toList = ['-', '2', ' ', '<', ' ', 'x'] := by decide +kernel
  have minus : Lexes 0 ['-'] [⟨.minus, 0⟩] ['2', ' ', '<', ' ', 'x'] := .token rfl rfl
  have number : Lexes 1 ['2'] [⟨.integer ⟨2, by decide, by decide⟩, 1⟩] [' ', '<', ' ', 'x'] :=
    .token rfl rfl
  have sign : Lexes 2 [' ', '<'] [⟨.less, 3⟩] [' ', 'x'] :=
    @Lexes.append 2 [' '] ['<'] [' ', 'x'] [] _ (.blanks rfl) (.token rfl rfl)
  have word : Lexes 4 [' ', 'x'] [⟨.identifier "x", 5⟩] [] :=
    @Lexes.append 4 [' '] ['x'] [] [] _ (.blanks rfl) (.token rfl rfl)
  have compared := @Lexes.append 2 [' ', '<'] [' ', 'x'] [] _ _ sign word
  have operand := @Lexes.append 1 ['2'] [' ', '<', ' ', 'x'] [] _ _ number compared
  have whole := @Lexes.append 0 ['-'] ['2', ' ', '<', ' ', 'x'] [] _ _ minus operand
  have lexed : lexemes 0 (Text.trim " -2 < x ").toList = .ok [⟨.minus, 0⟩,
      ⟨.integer ⟨2, by decide, by decide⟩, 1⟩, ⟨.less, 3⟩, ⟨.identifier "x", 5⟩] := by
    rw [trimmed, characters]
    exact whole.lexemes_eq
  refine ⟨lexed, ?_⟩
  have two : Derives .steps [.integer ⟨2, by decide, by decide⟩] _ :=
    .operand .steps (.atom (.integer _))
  have negated : Derives .unary [.minus, .integer ⟨2, by decide, by decide⟩] _ :=
    .negation (.positive two) (.integer (m := ⟨-2, by decide, by decide⟩) rfl)
  have name : Derives .unary [.identifier "x"] _ :=
    .positive (.operand .steps (.atom (.property "x")))
  have less := Derives.compared .less (.operand .sum negated) (.operand .sum name)
  have derived := Derives.operand .or (.operand .and (.affirmed less))
  obtain ⟨offset, deep, -⟩ | ⟨tree, read, parsed⟩ | ⟨_, _, _, bad, -⟩ :=
    (parse_accepts_grammar lexed).2 _ derived
  · exact absurd deep (by decide)
  · cases read
    rw [parsed, trimmed]
  · cases bad

end Remap.Expression
