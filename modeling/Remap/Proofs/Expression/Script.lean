import Remap.Proofs.Expression.Reads

/-!
# Productions step by step

A production tells what it reads, but not where it stands on the way and how many levels are open
meanwhile. A `Script` is a production as its single steps: looking at the next token, going past it,
opening a level, putting the number of levels back, calling another production, going through the
loop of a chain once more. `Symbol.script` has the steps of each production in their order, and
`Symbol.run_eq` says that they come to what the production reads.

`Script.Runs` are the runs of a script. A level that a call closes has to be open. So a run does not
only come to the outcome of its script (`Script.Runs.outcome_eq`), it never closes a level too many.
-/

namespace Remap.Expression

/-- A token that a function knows, other than the end, is not the end. -/
theorem isFinish_eq_false_of_some {α : Type} {f : Token → Option α} {token : Token} {a : α}
    (known : f token = some a) (unknown : f .finish = none) : isFinish token = false := by
  rw [← Bool.not_eq_true, isFinish_iff]
  rintro rfl
  rw [unknown] at known
  cases known

/-- What a reader sees from where it stands: the next token, its place, and how many levels are
open. -/
structure Glance where
  token : Token
  offset : Nat
  depth : Nat

namespace Cursor

/-- What is seen from a cursor. -/
def glance (c : Cursor) : Glance := ⟨c.peek, c.offset, c.depth⟩

theorem size_advance_lt_of_peek {c : Cursor} {token : Token} (next : c.peek = token)
    (inside : isFinish token = false) : c.advance.size < c.size := by
  obtain ⟨offset, rest, finish, depth, rfl⟩ := c.exists_eq_cons next inside
  exact Nat.lt_succ_self _

/-- The cursor behind a call, which may have opened a level for itself that is closed now. -/
def leave (closes : Bool) (c : Cursor) : Cursor := if closes then c.shallower else c

/-- The cursor behind a call, unless there is no level that could be closed. -/
def leave? (closes : Bool) (c : Cursor) : Option Cursor :=
  if closes = true ∧ c.depth = 0 then none else some (c.leave closes)

theorem leave?_eq_some_iff {closes : Bool} {c d : Cursor} :
    c.leave? closes = some d ↔ (closes = true → 0 < c.depth) ∧ c.leave closes = d := by
  unfold leave?
  split
  · next none =>
    have closed : ¬ 0 < c.depth := Nat.not_lt.mpr (Nat.le_of_eq none.2)
    exact iff_of_false nofun fun both => closed (both.1 none.1)
  · next open? =>
    rw [Option.some.injEq, Nat.pos_iff_ne_zero]
    exact ⟨fun same => ⟨fun closes none => open? ⟨closes, none⟩, same⟩, And.right⟩

@[simp] theorem rest_leave (closes : Bool) (c : Cursor) : (c.leave closes).rest = c.rest := by
  cases closes <;> rfl

@[simp] theorem depth_leave (closes : Bool) (c : Cursor) :
    (c.leave closes).depth = c.depth - closes.toNat := by
  cases closes <;> rfl

end Cursor

/-- A production as its single steps. -/
inductive Script
  /-- The expression is read. -/
  | done (e : Expr)
  /-- An error. The next token may have been taken before it was found to be wrong. -/
  | fail (taken : Bool) (e : ParseError)
  /-- A look at the next token. -/
  | look (next : Glance → Script)
  /-- The next token is taken. -/
  | advance (next : Script)
  /-- A level is opened, which fails at the offset when all are open. -/
  | deepen (offset : Nat) (next : Script)
  /-- The number of open levels is put back to what it was. -/
  | restore (depth : Nat) (next : Script)
  /-- Another production is called, and a level is closed behind it or not. -/
  | call (closes : Bool) (σ : Symbol) (next : Expr → Script)
  /-- The loop of a chain goes on behind an expression. It started with `depth` open levels. -/
  | loop (σ : Symbol) (depth : Nat) (left : Expr)

namespace Script

variable [Regex.Engine]

/-- The outcome of a script from a cursor on. -/
def exec : Script → Cursor → Outcome
  | done e, c => .ok (e, c)
  | fail _ e, _ => .error e
  | look next, c => (next c.glance).exec c
  | advance next, c => next.exec c.advance
  | deepen offset next, c => do
    c.deepen offset
    next.exec c.deeper
  | restore depth next, c => next.exec (c.atDepth depth)
  | call closes σ next, c => do
    let (e, d) ← σ.run c
    (next e).exec (d.leave closes)
  | loop σ depth left, c => do
    let (e, d) ← σ.links left c
    return (e, d.atDepth depth)

/-- Another production is called one level deeper. -/
def nested (offset : Nat) (σ : Symbol) (next : Expr → Script) : Script :=
  deepen offset (call true σ next)

/-- A token that has to come next. -/
def expect (wanted : Token) (isWanted : Token → Bool) (next : Script) : Script :=
  look fun g =>
    if isWanted g.token then advance next else fail false ⟨.expected wanted g.token, g.offset⟩

/-- An expression that is computed at the end. -/
def ofResult : Except ParseError Expr → Script
  | .ok e => done e
  | .error e => fail false e

/-- An operand, and the loop behind it. -/
def chain (σ τ : Symbol) : Script :=
  look fun g => call false τ fun left => loop σ g.depth left

/-- One more operand of a chain, behind the sign that is seen. -/
def link (σ τ : Symbol) (depth : Nat) (join : Expr → Expr) (g : Glance) : Script :=
  deepen g.offset (advance (call false τ fun right => loop σ depth (join right)))

@[simp] theorem exec_nested (offset : Nat) (σ : Symbol) (next : Expr → Script) (c : Cursor) :
    (nested offset σ next).exec c = (do
      c.deepen offset
      let (e, d) ← σ.run c.deeper
      (next e).exec d.shallower) := rfl

@[simp] theorem exec_expect (wanted : Token) (isWanted : Token → Bool) (next : Script)
    (c : Cursor) : (expect wanted isWanted next).exec c = (do
      let d ← Expression.expect wanted c isWanted
      next.exec d) := by
  unfold Expression.expect
  rw [expect, exec]
  by_cases passes : isWanted c.peek = true
  · rw [if_pos (show isWanted c.glance.token = true from passes), if_pos passes]
    rfl
  · rw [if_neg (show ¬ isWanted c.glance.token = true from passes), if_neg passes]
    rfl

@[simp] theorem exec_ofResult (x : Except ParseError Expr) (c : Cursor) :
    (ofResult x).exec c = (do
      let e ← x
      return (e, c)) := by
  cases x <;> rfl

end Script

namespace Symbol

/-! ## The productions -/

/-- A denial, or a comparison. -/
def notAt (g : Glance) : Script :=
  match g.token with
  | .not => .advance (.nested g.offset not fun operand => .done (.not operand))
  | _ => .call false comparison .done

/-- The sign of a comparison and its other operand, if they follow. -/
def comparedAt [Regex.Engine] (left : Expr) (g : Glance) : Script :=
  match g.token with
  | .matches =>
    .advance (.look fun g' =>
      .call false sum fun right => .ofResult (matchExpr left right g'.offset))
  | token =>
    match comparison? token with
    | some operator =>
      .advance (.call false sum fun right => .done (.binary operator left right))
    | none => .done left

/-- A negation, or an operand with its steps. -/
def unaryAt (g : Glance) : Script :=
  match g.token with
  | .minus =>
    .advance (.look fun g' =>
      .nested g'.offset unary fun operand => .ofResult (negation operand g'.offset))
  | _ => .call false steps .done

/-- A quoted name behind a bracket at an offset. -/
def keyAt (bracket : Nat) (g : Glance) : Script :=
  match g.token with
  | .string key => .advance (.expect .rightBracket isRightBracket (.done (.property key)))
  | found => .fail true ⟨.expectedQuotedKey found, bracket + 1⟩

/-- A literal, a name, an expression in parentheses, or a quoted property of the root. -/
def primaryAt (g : Glance) : Script :=
  match atom? g.token with
  | some e => .advance (.done e)
  | none =>
    match g.token with
    | .leftParen =>
      .advance (.nested g.offset or fun e => .expect .rightParen isRightParen (.done e))
    | .leftBracket => .advance (.look (keyAt g.offset))
    | found => .fail true ⟨.unexpected found, g.offset⟩

/-- The steps of a production. -/
def script [Regex.Engine] : Symbol → Script
  | or => .chain or and
  | and => .chain and not
  | not => .look notAt
  | comparison => .call false sum fun left => .look (comparedAt left)
  | sum => .chain sum unary
  | unary => .look unaryAt
  | steps => .chain steps primary
  | primary => .look primaryAt

/-- A name behind a point. -/
def memberAt (depth : Nat) (target : Expr) (g : Glance) : Script :=
  match g.token with
  | .identifier name => .advance (.loop steps depth (.member target name))
  | found => .fail true ⟨.expectedPropertyName found, g.offset⟩

/-- What the loop of a chain does with the token that is seen. -/
def turnAt (σ : Symbol) (depth : Nat) (left : Expr) (g : Glance) : Script :=
  match σ, g.token with
  | or, .or => .link or and depth (.or left) g
  | and, .and => .link and not depth (.and left) g
  | sum, .plus => .link sum unary depth (.binary .add left) g
  | sum, .minus => .link sum unary depth (.binary .subtract left) g
  | steps, .dot => .deepen g.offset (.advance (.look (memberAt depth left)))
  | steps, .leftBracket =>
    .deepen g.offset (.advance (.nested g.offset or fun position =>
      .expect .rightBracket isRightBracket (.loop steps depth (.index left position))))
  | _, _ => .restore depth (.done left)

/-- The loop of a chain, once. -/
def turn (σ : Symbol) (depth : Nat) (left : Expr) : Script := .look (turnAt σ depth left)

/-! ## What they come to -/

variable {σ τ : Symbol}

theorem script_chain [Regex.Engine] (chains : Chains σ τ) : σ.script = .chain σ τ := by
  cases chains <;> rfl

theorem turnAt_join {join : Expr → Expr → Expr} {g : Glance} (chains : Chains σ τ)
    (joins : Joins σ g.token join) (depth : Nat) (left : Expr) :
    σ.turnAt depth left g = .link σ τ depth (join left) g := by
  obtain ⟨token, offset, open?⟩ := g
  cases joins <;> cases chains <;> rfl

theorem turnAt_alone {g : Glance} (ends : σ.continues g.token = false) (depth : Nat)
    (left : Expr) : σ.turnAt depth left g = .restore depth (.done left) := by
  obtain ⟨token, offset, open?⟩ := g
  cases σ <;> cases token <;> first | rfl | cases ends

theorem notAt_of_ne {g : Glance} (other : g.token ≠ .not) :
    notAt g = .call false comparison .done := by
  unfold notAt
  split
  · contradiction
  · rfl

theorem unaryAt_of_ne {g : Glance} (other : g.token ≠ .minus) :
    unaryAt g = .call false steps .done := by
  unfold unaryAt
  split
  · contradiction
  · rfl

/-- The steps of a production come to what it reads. -/
theorem run_eq [Regex.Engine] (σ : Symbol) (c : Cursor) : σ.run c = σ.script.exec c := by
  have chain {σ τ : Symbol} (chains : Chains σ τ) : σ.run c = σ.script.exec c := by
    rw [run_chain chains, script_chain chains]
    rfl
  cases σ with
  | or => exact chain .or
  | and => exact chain .and
  | sum => exact chain .sum
  | steps => exact chain .steps
  | not =>
    by_cases denied : c.peek = .not
    · obtain ⟨offset, rest, finish, depth, rfl⟩ := Cursor.exists_eq_cons denied rfl
      exact run_denial offset rest finish depth
    · rw [run_not_of_ne denied, script, Script.exec, notAt_of_ne (g := c.glance) denied]
      exact (bind_pure _).symm
  | comparison =>
    rw [run_comparison]
    refine bind_congr fun (left, d) => ?_
    change compared left d = (comparedAt left d.glance).exec d
    obtain ⟨_ | ⟨⟨token, offset⟩, rest⟩, finish, depth⟩ := d
    · rfl
    · cases token with
      | «matches» =>
        refine bind_congr fun (right, d) => ?_
        exact (Script.exec_ofResult _ _).symm
      | _ => rfl
  | unary =>
    by_cases negated : c.peek = .minus
    · obtain ⟨offset, rest, finish, depth, rfl⟩ := Cursor.exists_eq_cons negated rfl
      rw [run_negation]
      change _ = (Script.nested _ _ _).exec _
      simp only [Script.exec_nested, Script.exec_ofResult]
      rfl
    · rw [run_unary_of_ne negated, script, Script.exec, unaryAt_of_ne (g := c.glance) negated]
      exact (bind_pure _).symm
  | primary =>
    change primary.run c = (primaryAt c.glance).exec c
    obtain ⟨_ | ⟨⟨token, offset⟩, rest⟩, finish, depth⟩ := c
    · exact run_unexpected rfl nofun nofun
    cases token with
    | leftParen =>
      rw [run_group]
      change _ = (Script.nested _ _ _).exec _
      simp only [Script.exec_nested, Script.exec_expect]
      rfl
    | leftBracket =>
      rw [run_key]
      change _ = (keyAt offset (Cursor.glance ⟨rest, finish, depth⟩)).exec ⟨rest, finish, depth⟩
      obtain _ | ⟨⟨token, offset'⟩, rest⟩ := rest
      · rfl
      · cases token with
        | string key =>
          change _ = (Script.expect _ _ _).exec _
          rw [Script.exec_expect]
          rfl
        | _ => rfl
    | integer | decimal | string | true | false | null | identifier | «variable» =>
      exact run_atom offset rest finish depth rfl
    | _ => exact run_unexpected rfl nofun nofun

/-- The loop of a chain comes to what is read behind its first operand. -/
theorem exec_loop [Regex.Engine] (σ : Symbol) (depth : Nat) (left : Expr) (c : Cursor) :
    (Script.loop σ depth left).exec c = (σ.turn depth left).exec c := by
  change (do
    let (e, d) ← σ.links left c
    return (e, d.atDepth depth)) = (σ.turnAt depth left c.glance).exec c
  by_cases goes : σ.continues c.peek = true
  · obtain ⟨_ | ⟨⟨token, offset⟩, rest⟩, finish, depth⟩ := c
    · cases σ <;> cases goes
    obtain ⟨τ, join, chains, joins⟩ | ⟨rfl, rfl | rfl⟩ := joins_of_continues goes
    · have joins : Joins σ token join := joins
      rw [turnAt_join chains joins, links_join chains joins]
      simp only [bind_assoc]
      rfl
    · rw [links_dot]
      simp only [bind_assoc]
      refine bind_congr fun _ => ?_
      change _ = (memberAt _ left (Cursor.glance ⟨rest, finish, _⟩)).exec _
      obtain _ | ⟨⟨token, offset'⟩, rest⟩ := rest
      · rfl
      · cases token <;> rfl
    · rw [links_bracket]
      simp only [bind_assoc]
      refine bind_congr fun _ => ?_
      change _ = (Script.nested _ _ _).exec _
      simp only [Script.exec_nested, Script.exec_expect]
      rfl
  · rw [Bool.not_eq_true] at goes
    rw [links_alone goes, turnAt_alone (g := c.glance) goes]
    rfl

end Symbol

/-! ## Runs -/

/-- How a run ends. An error is found at a cursor, whose token may have been taken before that. -/
inductive Ending
  | done (e : Expr) (c : Cursor)
  | failed (e : ParseError) (c : Cursor) (taken : Bool)

namespace Ending

/-- What the run comes to. -/
def outcome : Ending → Outcome
  | done e c => .ok (e, c)
  | failed e _ _ => .error e

/-- Where the last token stands that was looked at. -/
def last : Ending → Cursor
  | done _ c => c
  | failed _ c _ => c

/-- Where the reader stands at the end. -/
def cursor : Ending → Cursor
  | done _ c => c
  | failed _ c taken => if taken then c.advance else c

@[simp] theorem depth_cursor (r : Ending) : r.cursor.depth = r.last.depth := by
  obtain _ | ⟨_, _, taken⟩ := r
  · rfl
  · cases taken <;> rfl

end Ending

namespace Script

variable [Regex.Engine]

/-- The runs of a script from a cursor on. An error passes through the calls that it comes out of;
their levels are closed all the same. -/
inductive Runs : Script → Cursor → Ending → Prop
  | done {e : Expr} {c : Cursor} : Runs (done e) c (.done e c)
  | fail {taken : Bool} {e : ParseError} {c : Cursor} : Runs (fail taken e) c (.failed e c taken)
  | look {next : Glance → Script} {c : Cursor} {r : Ending} (more : Runs (next c.glance) c r) :
    Runs (look next) c r
  | advance {next : Script} {c : Cursor} {r : Ending} (more : Runs next c.advance r) :
    Runs (advance next) c r
  | deepen {offset : Nat} {next : Script} {c : Cursor} {r : Ending} (room : c.depth < maxNesting)
    (more : Runs next c.deeper r) : Runs (deepen offset next) c r
  | full {offset : Nat} {next : Script} {c : Cursor} (full : maxNesting ≤ c.depth) :
    Runs (deepen offset next) c (.failed ⟨.nestedTooDeeply, offset⟩ c false)
  | restore {depth : Nat} {next : Script} {c : Cursor} {r : Ending}
    (more : Runs next (c.atDepth depth) r) : Runs (restore depth next) c r
  | call {closes : Bool} {σ : Symbol} {next : Expr → Script} {e : Expr} {c d d' : Cursor}
    {r : Ending} (inner : Runs σ.script c (.done e d)) (closed : d.leave? closes = some d')
    (more : Runs (next e) d' r) : Runs (call closes σ next) c r
  | raised {closes : Bool} {σ : Symbol} {next : Expr → Script} {e : ParseError} {c d d' : Cursor}
    {taken : Bool} (inner : Runs σ.script c (.failed e d taken))
    (closed : d.leave? closes = some d') : Runs (call closes σ next) c (.failed e d' taken)
  | loop {σ : Symbol} {depth : Nat} {left : Expr} {c : Cursor} {r : Ending}
    (more : Runs (σ.turn depth left) c r) : Runs (loop σ depth left) c r

namespace Runs

variable {s : Script} {c : Cursor} {r : Ending}

/-- A run comes to the outcome of its script. -/
theorem outcome_eq (runs : Runs s c r) : r.outcome = s.exec c := by
  induction runs with
  | done | fail => rfl
  | look more ih | advance more ih | restore more ih => exact ih
  | deepen room more ih =>
    rw [exec, Cursor.deepen_eq_ok (u := ()) |>.mpr room]
    exact ih
  | full full =>
    rw [exec, Cursor.deepen, if_pos full]
    rfl
  | call inner closed more ihInner ihMore =>
    obtain ⟨-, rfl⟩ := Cursor.leave?_eq_some_iff.mp closed
    rw [exec, Symbol.run_eq, ← ihInner]
    exact ihMore
  | raised inner closed ihInner =>
    rw [exec, Symbol.run_eq, ← ihInner]
    rfl
  | loop more ih =>
    rw [Symbol.exec_loop]
    exact ih

/-- A run goes forward: what is left at its end is the end of what there was. -/
theorem suffix (runs : Runs s c r) : r.last.rest <:+ c.rest := by
  induction runs with
  | done | fail | full => exact List.suffix_rfl
  | look more ih | deepen room more ih | restore more ih | loop more ih => exact ih
  | advance more ih => exact ih.trans (List.tail_suffix _)
  | call inner closed more ihInner ihMore =>
    obtain ⟨-, rfl⟩ := Cursor.leave?_eq_some_iff.mp closed
    rw [Cursor.rest_leave] at ihMore
    exact ihMore.trans ihInner
  | raised inner closed ihInner =>
    obtain ⟨-, rfl⟩ := Cursor.leave?_eq_some_iff.mp closed
    rwa [Ending.last, Cursor.rest_leave]

end Runs

end Script

end Remap.Expression
