import Remap.Proofs.Expression.Script
import Remap.Proofs.Expression.Soundness

/-!
# The token that an error names

Some errors of a production name a token that was found. A production goes forward through tokens
that something can begin with, so it comes to such an error with a possible start behind it and with
the named token next. `Script.Blames` says this of the steps of a production; each production is
checked against it once (`Symbol.blames_script`, `Symbol.blames_turn`). Main statement:
`Script.Runs.names`, what follows for every run.
-/

namespace Remap.Expression

/-! ## Tokens that something begins with -/

/-- Something that the symbol derives begins with the tokens. -/
def Symbol.Viable (σ : Symbol) (w : List Token) : Prop := ∃ v t, Derives σ (w ++ v) t

/-- An expression with the end behind it begins with the tokens. -/
def MayBegin (w : List Token) : Prop := ∃ v t, Derives .or v t ∧ w <+: v ++ [.finish]

namespace Symbol.Viable

variable {σ τ : Symbol} {w v : List Token} {l : Expr}

theorem of_denotes [Regex.Engine] (denotes : Denotes σ w l) : σ.Viable w := by
  obtain ⟨t, derives, -⟩ := denotes
  exact ⟨[], t, by rwa [List.append_nil]⟩

theorem chain (chains : Chains σ τ) (viable : τ.Viable w) : σ.Viable w :=
  viable.imp fun _ => .imp fun _ => .operand chains

theorem join [Regex.Engine] {token : Token} {join : Expr → Expr → Expr} (chains : Chains σ τ)
    (joins : Joins σ token join) (left : Denotes σ w l) (viable : τ.Viable v) :
    σ.Viable (w ++ token :: v) := by
  obtain ⟨t, derived, -⟩ := left
  obtain ⟨u, t', derived'⟩ := viable
  exact ⟨u, join t t', by simpa using derived.join chains joins derived'⟩

theorem denial (viable : not.Viable w) : not.Viable (.not :: w) := by
  obtain ⟨u, t, derived⟩ := viable
  exact ⟨u, t.not, .denial derived⟩

/-- A step behind the operand keeps a minus from going into a literal, whose negation might be out
of range. -/
theorem exists_negation {t : Expr} (derived : Derives .unary w t) :
    ∃ u t', Derives .unary (.minus :: (w ++ u)) t' := by
  cases derived with
  | operand chains => cases chains
  | join chains => cases chains
  | positive inner =>
    exact ⟨[.dot, .identifier ""], .negate (.member t ""),
      .negation (.positive (.member inner)) (.other (by simp) (by simp))⟩
  | negation inner negates =>
    have again : ∃ t', Negates t t' := by
      cases negates with
      | @integer n m opposite =>
        have opposite : n.val = -m.val := by rw [opposite, Int.neg_neg]
        exact ⟨_, .integer opposite⟩
      | decimal x => exact ⟨_, .decimal _⟩
      | other => exact ⟨_, .other (by simp) (by simp)⟩
    obtain ⟨t', again⟩ := again
    refine ⟨[], t', ?_⟩
    rw [List.append_nil]
    exact .negation (.negation inner negates) again

theorem negation (viable : unary.Viable w) : unary.Viable (.minus :: w) := by
  obtain ⟨v, t, derived⟩ := viable
  obtain ⟨u, t', derived⟩ := exists_negation derived
  exact ⟨v ++ u, t', by rwa [List.cons_append, ← List.append_assoc]⟩

theorem affirmed (viable : comparison.Viable w) : not.Viable w :=
  viable.imp fun _ => .imp fun _ => .affirmed

theorem positive (viable : steps.Viable w) : unary.Viable w :=
  viable.imp fun _ => .imp fun _ => .positive

theorem uncompared (viable : sum.Viable w) : comparison.Viable w :=
  viable.imp fun _ => .imp fun _ => .uncompared

theorem compared [Regex.Engine] {token : Token} {operator : Operator}
    (compares : Compares token operator)
    (left : Denotes .sum w l) (viable : sum.Viable v) : comparison.Viable (w ++ token :: v) := by
  obtain ⟨t, derived, -⟩ := left
  obtain ⟨u, t', derived'⟩ := viable
  exact ⟨u, .binary operator t t', by simpa using .compared compares derived derived'⟩

theorem matched [Regex.Engine] (left : Denotes .sum w l) (viable : sum.Viable v) :
    comparison.Viable (w ++ .matches :: v) := by
  obtain ⟨t, derived, -⟩ := left
  obtain ⟨u, t', derived'⟩ := viable
  exact ⟨u, .matchesDynamic t t', by simpa using .matched derived derived'⟩

theorem dot [Regex.Engine] (left : Denotes .steps w l) : steps.Viable (w ++ [.dot]) := by
  obtain ⟨t, derived, -⟩ := left
  exact ⟨[.identifier ""], .member t "", by simpa using .member derived⟩

theorem index [Regex.Engine] (left : Denotes .steps w l) (viable : or.Viable v) :
    steps.Viable (w ++ .leftBracket :: v) := by
  obtain ⟨t, derived, -⟩ := left
  obtain ⟨u, t', derived'⟩ := viable
  exact ⟨u ++ [.rightBracket], .index t t', by simpa using derived.index derived'⟩

theorem group (viable : or.Viable w) : primary.Viable (.leftParen :: w) := by
  obtain ⟨u, t, derived⟩ := viable
  exact ⟨u ++ [.rightParen], t, by simpa using Derives.group derived⟩

theorem key (name : String) : primary.Viable [.leftBracket, .string name] :=
  ⟨[.rightBracket], .property name, .key⟩

theorem bracket : primary.Viable [.leftBracket] :=
  ⟨[.string "", .rightBracket], .property "", .key⟩

theorem nothing : primary.Viable [] := ⟨[.null], _, .atom .null⟩

end Symbol.Viable

/-! ## What the errors of a production name -/

/-- The token that a failure names as found. -/
def ParseFailure.found? : ParseFailure → Option Token
  | .expected _ found | .expectedPropertyName found | .expectedQuotedKey found
  | .unexpected found => some found
  | _ => none

theorem found?_eq_none_of_matchExpr [Regex.Engine] {subject pattern : Expr} {offset : Nat}
    {e : ParseError}
    (failed : matchExpr subject pattern offset = .error e) : e.failure.found? = none := by
  rw [matchExpr_eq] at failed
  cases matching : subject.matching pattern with
  | error bad =>
    rw [matching] at failed
    cases failed
    rfl
  | ok =>
    rw [matching] at failed
    cases failed

theorem found?_eq_none_of_negation {operand : Expr} {offset : Nat} {e : ParseError}
    (failed : negation operand offset = .error e) : e.failure.found? = none := by
  unfold negation at failed
  split at failed
  · split at failed
    · cases failed
    · cases failed
      rfl
  · cases failed
  · cases failed

/-- Where an error is reported whose token stands at an offset behind the tokens: at the offset.
Only a missing quoted name is reported one behind where its bracket starts. -/
def ParseError.PointsAt (e : ParseError) (before : List Lexeme) (offset : Nat) : Prop :=
  match e.failure with
  | .expectedQuotedKey _ =>
    ∃ front bracket, before = front ++ [⟨.leftBracket, bracket⟩] ∧ e.offset = bracket + 1
  | _ => e.offset = offset

theorem ParseError.PointsAt.behind {e : ParseError} {before : List Lexeme} {offset : Nat}
    (points : e.PointsAt before offset) (more : List Lexeme) :
    e.PointsAt (more ++ before) offset := by
  unfold PointsAt at points ⊢
  split at points
  · obtain ⟨front, bracket, rfl, same⟩ := points
    exact ⟨more ++ front, bracket, (List.append_assoc _ _ _).symm, same⟩
  · exact points

/-- The next token, if there is one. -/
def Cursor.taken (c : Cursor) : List Lexeme := c.rest.take 1

theorem Cursor.rest_eq_taken (c : Cursor) : c.rest = c.taken ++ c.advance.rest := by
  rw [taken, advance, ← List.drop_one, List.take_append_drop]

theorem Cursor.taken_eq {c : Cursor} {token : Token} (next : c.peek = token)
    (inside : isFinish token = false) : c.taken = [⟨token, c.offset⟩] := by
  obtain ⟨offset, rest, finish, depth, rfl⟩ := c.exists_eq_cons next inside
  rfl

namespace Script

variable [Regex.Engine]

/-- The errors of a script that is under way at a cursor, behind tokens that its production has
taken so far: an error that names a token names the one that is next, points at it, and the
production can begin with the tokens before it. What is called can stand behind these tokens too. -/
def Blames (σ : Symbol) : Script → List Lexeme → Cursor → Prop
  | done _, _, _ => True
  | fail _ e, before, c => ∀ found, e.failure.found? = some found →
    c.peek = found ∧ e.PointsAt before c.offset ∧ σ.Viable (tokensOf before)
  | look next, before, c => (next c.glance).Blames σ before c
  | advance next, before, c => next.Blames σ (before ++ c.taken) c.advance
  | deepen _ next, before, c => next.Blames σ before c.deeper
  | restore depth next, before, c => next.Blames σ before (c.atDepth depth)
  | call closes τ next, before, c =>
    (∀ w, τ.Viable w → σ.Viable (tokensOf before ++ w)) ∧
      ∀ e (d : Cursor) ls, c.rest = ls ++ d.rest → Denotes τ (tokensOf ls) e →
        (next e).Blames σ (before ++ ls) (d.leave closes)
  | loop τ _ left, before, _ => τ = σ ∧ Denotes σ (tokensOf before) left

namespace Blames

variable {σ : Symbol} {next : Script} {before : List Lexeme} {c : Cursor}

theorem advance {token : Token} (known : c.peek = token) (inside : isFinish token = false)
    (more : next.Blames σ (before ++ [⟨token, c.offset⟩]) c.advance) :
    (Script.advance next).Blames σ before c := by
  rw [Blames, Cursor.taken_eq known inside]
  exact more

theorem expect {wanted : Token} {isWanted : Token → Bool} (viable : σ.Viable (tokensOf before))
    (more : isWanted c.peek = true → next.Blames σ (before ++ c.taken) c.advance) :
    (Script.expect wanted isWanted next).Blames σ before c := by
  unfold Script.expect
  simp only [Blames]
  split
  · next passes => exact more passes
  · intro found named
    cases named
    exact ⟨rfl, rfl, viable⟩

theorem ofResult {x : Except ParseError Expr}
    (nameless : ∀ e, x = .error e → e.failure.found? = none) :
    (Script.ofResult x).Blames σ before c := by
  cases x with
  | error e =>
    intro found named
    rw [nameless e rfl] at named
    cases named
  | ok => trivial

end Blames

end Script

namespace Symbol

variable [Regex.Engine]

/-- An error of a production that names a token names the next one behind a possible start. -/
theorem blames_script (σ : Symbol) (c : Cursor) : σ.script.Blames σ [] c := by
  have chain {σ τ : Symbol} (chains : Chains σ τ) : σ.script.Blames σ [] c := by
    rw [script_chain chains]
    exact ⟨fun w => .chain chains, fun left d ls taken denotes =>
      ⟨rfl, denotes.imp fun _ => .operand chains⟩⟩
  cases σ with
  | or => exact chain .or
  | and => exact chain .and
  | sum => exact chain .sum
  | steps => exact chain .steps
  | not =>
    simp only [script, Script.Blames, notAt]
    split
    · next denied => exact .advance denied rfl ⟨fun w => .denial, fun _ _ _ _ _ => trivial⟩
    · exact ⟨fun w => .affirmed, fun _ _ _ _ _ => trivial⟩
  | comparison =>
    refine ⟨fun w => .uncompared, fun left d ls taken denotes => ?_⟩
    simp only [Script.Blames, comparedAt]
    split
    · next isMatch =>
      refine .advance isMatch rfl ⟨fun w viable => ?_, fun right d' ls' taken' denotes' => ?_⟩
      · rw [tokensOf, List.map_append, List.append_assoc]
        exact .matched denotes viable
      · exact .ofResult fun e failed => found?_eq_none_of_matchExpr failed
    · split
      · next compares =>
        have inside := isFinish_eq_false_of_some compares rfl
        refine .advance rfl inside ⟨fun w viable => ?_, fun _ _ _ _ _ => trivial⟩
        rw [tokensOf, List.map_append, List.append_assoc]
        exact .compared (comparison?_eq_some_iff.mp compares) denotes viable
      · trivial
  | unary =>
    simp only [script, Script.Blames, unaryAt]
    split
    · next negated =>
      refine .advance negated rfl ⟨fun w => .negation, fun operand d ls taken denotes => ?_⟩
      exact .ofResult fun e failed => found?_eq_none_of_negation failed
    · exact ⟨fun w => .positive, fun _ _ _ _ _ => trivial⟩
  | primary =>
    simp only [script, Script.Blames, primaryAt]
    split
    · trivial
    · split
      · next opens =>
        refine .advance opens rfl ⟨fun w => .group, fun e d ls taken denotes => ?_⟩
        exact .expect (.group (.of_denotes denotes)) fun _ => trivial
      · next opens =>
        refine .advance opens rfl ?_
        simp only [Script.Blames, keyAt]
        split
        · next quoted => exact .advance quoted rfl (.expect (.key _) fun _ => trivial)
        · intro found named
          cases named
          exact ⟨rfl, ⟨[], _, rfl, rfl⟩, .bracket⟩
      · intro found named
        cases named
        exact ⟨rfl, rfl, .nothing⟩

/-- So does an error of the loop of a chain, behind what the chain has read so far. -/
theorem blames_turn (σ : Symbol) (depth : Nat) {left : Expr} {before : List Lexeme} (c : Cursor)
    (denotes : Denotes σ (tokensOf before) left) : (σ.turn depth left).Blames σ before c := by
  have link {σ τ : Symbol} {token : Token} {join : Expr → Expr → Expr} {left : Expr}
      (denotes : Denotes σ (tokensOf before) left) (chains : Chains σ τ)
      (joins : Joins σ token join) (next : c.peek = token) (inside : isFinish token = false) :
      (Script.link σ τ depth (join left) c.glance).Blames σ before c := by
    refine .advance next inside ⟨fun w viable => ?_, fun right d ls taken denotes' => ⟨rfl, ?_⟩⟩
    · rw [tokensOf, List.map_append, List.append_assoc]
      exact .join chains joins denotes viable
    · have longer := denotes.map₂ denotes' (fun _ _ => .join chains joins) joins.withRegexes_eq
      simpa [tokensOf] using longer
  simp only [turn, Script.Blames, turnAt]
  split
  · next next => exact link denotes .or .or next rfl
  · next next => exact link denotes .and .and next rfl
  · next next => exact link denotes .sum .plus next rfl
  · next next => exact link denotes .sum .minus next rfl
  · next next =>
    refine .advance (c := c.deeper) next rfl ?_
    simp only [Script.Blames, memberAt]
    split
    · next name named =>
      have longer : Denotes steps (_ ++ [.dot, .identifier name]) _ :=
        denotes.map (fun _ => .member) fun _ => rfl
      exact .advance named rfl ⟨rfl, by simpa [tokensOf] using longer⟩
    · intro found named
      cases named
      refine ⟨rfl, rfl, ?_⟩
      rw [tokensOf, List.map_append]
      exact .dot denotes
  · next next =>
    refine .advance (c := c.deeper) next rfl
      ⟨fun w viable => ?_, fun position d ls taken inner => ?_⟩
    · rw [tokensOf, List.map_append, List.append_assoc]
      exact .index denotes viable
    · refine .expect ?_ fun closes => ?_
      · rw [tokensOf, List.map_append, List.map_append, List.append_assoc]
        exact .index denotes (.of_denotes inner)
      · rw [Cursor.taken_eq (isRightBracket_iff.mp closes) rfl]
        have longer := denotes.map₂ inner (fun _ _ => .index) fun _ _ => rfl
        exact ⟨rfl, by simpa [tokensOf] using longer⟩
  · trivial

end Symbol

/-! ## Where runs fail -/

namespace Script

/-- A run that ends with an error that names a token has taken some tokens and stands before the one
that is named. -/
def Names (σ : Symbol) (before : List Lexeme) (c : Cursor) : Ending → Prop
  | .done _ _ => True
  | .failed e d _ => ∀ found, e.failure.found? = some found → ∃ more, c.rest = more ++ d.rest ∧
    d.peek = found ∧ e.PointsAt (before ++ more) d.offset ∧ σ.Viable (tokensOf (before ++ more))

/-- More tokens that were taken first. -/
theorem Names.behind {σ : Symbol} {before ls : List Lexeme} {c d : Cursor} {r : Ending}
    (names : Names σ (before ++ ls) d r) (taken : c.rest = ls ++ d.rest) : Names σ before c r := by
  cases r with
  | done => trivial
  | failed e d' =>
    intro found named
    obtain ⟨more, rest, next, points, viable⟩ := names found named
    rw [List.append_assoc] at points viable
    exact ⟨ls ++ more, by rw [taken, rest, List.append_assoc], next, points, viable⟩

/-- The errors of a run are those that its script may end with, and those of its calls, which are
behind what the caller has taken. -/
theorem Runs.names [Regex.Engine] {s : Script} {c : Cursor} {r : Ending} (runs : s.Runs c r) :
    ∀ {σ : Symbol} {before : List Lexeme}, s.Blames σ before c → Names σ before c r := by
  induction runs with
  | done => exact fun _ => trivial
  | fail =>
    intro σ before blames found named
    obtain ⟨next, points, viable⟩ := blames found named
    refine ⟨[], rfl, next, ?_, ?_⟩
    · rwa [List.append_nil]
    · rwa [List.append_nil]
  | full =>
    intro σ before blames found named
    cases named
  | look more ih | deepen room more ih | restore more ih => exact fun blames => ih blames
  | @advance next c r more ih =>
    intro σ before blames
    exact (ih blames).behind c.rest_eq_taken
  | @call closes τ next e c d d' r inner closed more ihInner ihMore =>
    intro σ before blames
    obtain ⟨-, rfl⟩ := Cursor.leave?_eq_some_iff.mp closed
    have read : (Production.whole τ).run c = .ok (e, d) :=
      (τ.run_eq c).trans inner.outcome_eq.symm
    obtain ⟨ls, taken, denotes⟩ := (Reads.of_run read).sound
    refine (ihMore (blames.2 e d ls taken denotes)).behind ?_
    rwa [Cursor.rest_leave]
  | @raised closes τ next e c d d' taken inner closed ihInner =>
    intro σ before blames found named
    obtain ⟨-, rfl⟩ := Cursor.leave?_eq_some_iff.mp closed
    obtain ⟨more, rest, next, points, viable⟩ := ihInner (τ.blames_script c) found named
    have viable := blames.1 _ viable
    rw [tokensOf, tokensOf, ← List.map_append] at viable
    cases closes <;> exact ⟨more, rest, next, points.behind before, viable⟩
  | @loop τ depth left c r more ih =>
    rintro σ before ⟨rfl, denotes⟩
    exact ih (τ.blames_turn depth c denotes)

end Script

end Remap.Expression
