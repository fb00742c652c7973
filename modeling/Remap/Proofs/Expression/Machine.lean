import Mathlib.Logic.Relation
import Remap.Proofs.Expression.Script
import Remap.Regex.Reader

/-!
# Position and levels of a reader

A reader has two counters, its position among the tokens and the number of open levels. A chain
saves the number of levels before its loop and puts it back behind it, a nested part opens one level
and closes it again, the two of them stand inside each other, and an error leaves levels open that a
chain has opened.

`Script.Keeps` says what the steps of a production owe: the invariant of its counters, and a measure
of tokens and symbols that each call makes smaller. Each production is checked against it once
(`Symbol.keeps_script`, `Symbol.keeps_turn`). From that follow, by induction on the measure, that
every production runs to an end (`Production.ends`), and, by induction on the steps of a `Reader`
with all its calls under way, what each state on the way keeps (`Reader.Sound.reaches`). Main
statement: `Symbol.reader_disciplined`.
-/

namespace Remap.Expression

/-! ## What the steps of a production keep -/

/-- Symbols that call each other where they stand call tighter ones. -/
def Symbol.rank : Symbol → Nat
  | .or => 8
  | .and => 7
  | .not => 6
  | .comparison => 5
  | .sum => 4
  | .unary => 3
  | .steps => 2
  | .primary => 1

namespace Script

/-- The duties of a script that is under way at a cursor, in a production that was entered with
`depth` open levels and `limit` tokens left: it ends with so many levels again and with fewer
tokens, closes only levels that it has opened itself, opens one before it calls the loosest symbol,
and what it calls has less to do than `measure`. -/
def Keeps (depth limit measure : Nat) : Script → Cursor → Prop
  | done _, c => c.depth = depth ∧ c.size < limit
  | fail _ _, _ => True
  | look next, c => (next c.glance).Keeps depth limit measure c
  | advance next, c => next.Keeps depth limit measure c.advance
  | deepen _ next, c => next.Keeps depth limit measure c.deeper
  | restore before next, c => before = depth ∧ next.Keeps depth limit measure (c.atDepth before)
  | call closes σ next, c =>
    16 * c.size + σ.rank < measure ∧ (closes = true → depth < c.depth) ∧
      (σ = .or → closes = true) ∧
      ∀ e (d : Cursor), d.depth = c.depth → d.size < c.size →
        (next e).Keeps depth limit measure (d.leave closes)
  | loop _ before _, c => before = depth ∧ c.size < limit ∧ 16 * c.size < measure

namespace Keeps

variable {depth limit measure : Nat} {next : Script} {c : Cursor}

/-- A call that opens no level. -/
theorem call {σ : Symbol} {next : Expr → Script} (less : 16 * c.size + σ.rank < measure)
    (other : σ ≠ .or)
    (more : ∀ e (d : Cursor), d.depth = c.depth → d.size < c.size →
      (next e).Keeps depth limit measure d) :
    (Script.call false σ next).Keeps depth limit measure c :=
  ⟨less, fun closes => absurd closes Bool.false_ne_true, fun same => absurd same other, more⟩

theorem nested (offset : Nat) {σ : Symbol} {next : Expr → Script}
    (less : 16 * c.size + σ.rank < measure) (deep : depth ≤ c.depth)
    (more : ∀ e (d : Cursor), d.depth = c.depth → d.size < c.size →
      (next e).Keeps depth limit measure d) :
    (Script.nested offset σ next).Keeps depth limit measure c := by
  refine ⟨less, fun _ => Nat.lt_succ_of_le deep, fun _ => rfl, fun e d same shorter => ?_⟩
  refine more e d.shallower ?_ shorter
  exact congrArg (· - 1) same

theorem expect {wanted : Token} {isWanted : Token → Bool}
    (more : next.Keeps depth limit measure c.advance) :
    (Script.expect wanted isWanted next).Keeps depth limit measure c := by
  unfold Script.expect
  simp only [Keeps]
  split
  · exact more
  · trivial

theorem ofResult {x : Except ParseError Expr} (same : c.depth = depth) (less : c.size < limit) :
    (Script.ofResult x).Keeps depth limit measure c := by
  cases x with
  | error => trivial
  | ok => exact ⟨same, less⟩

end Keeps

end Script

namespace Symbol

variable {σ τ : Symbol}

theorem rank_le (σ : Symbol) : σ.rank ≤ 8 := by cases σ <;> decide

theorem rank_lt (chains : Chains σ τ) : τ.rank < σ.rank ∧ 0 < σ.rank ∧ τ ≠ or := by
  cases chains <;> decide

/-- A production keeps its duties from its start on. -/
theorem keeps_script [Regex.Engine] (σ : Symbol) (c : Cursor) :
    σ.script.Keeps c.depth c.size (16 * c.size + σ.rank) c := by
  have chain {σ τ : Symbol} (chains : Chains σ τ) :
      σ.script.Keeps c.depth c.size (16 * c.size + σ.rank) c := by
    rw [script_chain chains]
    obtain ⟨tighter, positive, other⟩ := rank_lt chains
    refine .call (Nat.add_lt_add_left tighter _) other fun left d same shorter => ?_
    refine ⟨rfl, shorter, ?_⟩
    omega
  cases σ with
  | or => exact chain .or
  | and => exact chain .and
  | sum => exact chain .sum
  | steps => exact chain .steps
  | not =>
    simp only [script, Script.Keeps, notAt]
    split
    · next denied =>
      have shorter := Cursor.size_advance_lt_of_peek denied rfl
      refine Script.Keeps.nested c.offset ?_ (Nat.le_refl _) fun e d same less => ⟨same, ?_⟩
      · simp only [rank]; omega
      · omega
    · exact .call (Nat.lt_succ_self _) (by decide) fun e d same less => ⟨same, less⟩
  | comparison =>
    refine .call (Nat.lt_succ_self _) (by decide) fun left d same less => ?_
    have second {next : Expr → Script} (shorter : d.advance.size < d.size)
      (more : ∀ e (d' : Cursor), d'.depth = c.depth → d'.size < c.size →
        (next e).Keeps c.depth c.size (16 * c.size + rank comparison) d') :
      (Script.call false sum next).Keeps c.depth c.size (16 * c.size + rank comparison)
        d.advance := by
      refine .call ?_ (by decide) fun e d' same' less' => more e d' (same'.trans same) ?_
      · simp only [rank]; omega
      · omega
    simp only [Script.Keeps, comparedAt]
    split
    · next isMatch =>
      have shorter := Cursor.size_advance_lt_of_peek isMatch rfl
      exact second shorter fun right d' same' less' => .ofResult same' less'
    · split
      · next compares =>
        have inside := isFinish_eq_false_of_some compares rfl
        have shorter := Cursor.size_advance_lt_of_peek rfl inside
        exact second shorter fun right d' same' less' => ⟨same', less'⟩
      · exact ⟨same, less⟩
  | unary =>
    simp only [script, Script.Keeps, unaryAt]
    split
    · next negated =>
      have shorter := Cursor.size_advance_lt_of_peek negated rfl
      refine .nested c.advance.offset ?_ (Nat.le_refl _) fun e d same less => .ofResult same ?_
      · simp only [rank]; omega
      · omega
    · exact .call (Nat.lt_succ_self _) (by decide) fun e d same less => ⟨same, less⟩
  | primary =>
    simp only [script, Script.Keeps, primaryAt]
    split
    · next single =>
      have inside := isFinish_eq_false_of_some single rfl
      exact ⟨rfl, Cursor.size_advance_lt_of_peek rfl inside⟩
    · split
      · next opens =>
        have shorter := Cursor.size_advance_lt_of_peek opens rfl
        refine .nested c.offset ?_ (Nat.le_refl _) fun e d same less => .expect ⟨same, ?_⟩
        · simp only [rank]; omega
        · have := d.size_advance_le
          omega
      · next opens =>
        have shorter := Cursor.size_advance_lt_of_peek opens rfl
        simp only [Script.Keeps, keyAt]
        split
        · refine .expect ⟨rfl, ?_⟩
          have := c.advance.size_advance_le
          have := c.advance.advance.size_advance_le
          omega
        · trivial
      · trivial

/-- The loop of a chain keeps the duties of its production. -/
theorem keeps_turn (σ : Symbol) {depth limit : Nat} {c : Cursor} (deep : depth ≤ c.depth)
    (less : c.size < limit) (left : Expr) :
    (σ.turn depth left).Keeps depth limit (16 * c.size) c := by
  have link {σ τ : Symbol} {token : Token} {join : Expr → Expr} (chains : Chains σ τ)
      (next : c.peek = token) (inside : isFinish token = false) :
      (Script.link σ τ depth join c.glance).Keeps depth limit (16 * c.size) c := by
    have shorter : c.deeper.advance.size < c.size := Cursor.size_advance_lt_of_peek next inside
    obtain ⟨low, -, other⟩ := rank_lt chains
    have operand : (Script.call false τ fun right => Script.loop σ depth (join right)).Keeps depth
        limit (16 * c.size) c.deeper.advance := by
      refine .call ?_ other fun right d same less => ⟨rfl, ?_, ?_⟩
      · have := σ.rank_le
        omega
      · omega
      · omega
    exact operand
  simp only [turn, Script.Keeps, turnAt]
  split
  · next next => exact link .or next rfl
  · next next => exact link .and next rfl
  · next next => exact link .sum next rfl
  · next next => exact link .sum next rfl
  · next next =>
    have shorter : c.deeper.advance.size < c.size := Cursor.size_advance_lt_of_peek next rfl
    have := c.deeper.advance.size_advance_le
    simp only [Script.Keeps, memberAt]
    split
    · refine ⟨rfl, ?_, ?_⟩ <;> omega
    · trivial
  · next next =>
    have shorter : c.deeper.advance.size < c.size := Cursor.size_advance_lt_of_peek next rfl
    have position : 16 * c.deeper.advance.size + rank or < 16 * c.size := by
      simp only [rank]
      omega
    refine .nested c.offset position (Nat.le_succ_of_le deep) fun e d same less => .expect ?_
    have := d.size_advance_le
    refine ⟨rfl, ?_, ?_⟩ <;> omega
  · exact ⟨rfl, rfl, less⟩

end Symbol

/-! ## Every script runs to an end -/

/-- The end of a production that was entered with `depth` open levels and `limit` tokens left. -/
def Ending.Settles (depth limit : Nat) : Ending → Prop
  | done _ d => d.depth = depth ∧ d.size < limit
  | failed _ d _ => depth ≤ d.depth

/-- What a production has to do from a cursor on. -/
def Production.measure : Production → Cursor → Nat
  | whole σ, c => 16 * c.size + σ.rank
  | links _ _, c => 16 * c.size

/-- A production runs to an end. -/
def Production.Ends [Regex.Engine] : Production → Cursor → Prop
  | whole σ, c => ∃ r, σ.script.Runs c r ∧ r.Settles c.depth c.size
  | links σ left, c => ∀ depth limit, depth ≤ c.depth → c.size < limit →
    ∃ r, (σ.turn depth left).Runs c r ∧ r.Settles depth limit

/-- A level that is closed behind a call was opened before it. -/
theorem Cursor.leave?_eq_some {closes : Bool} {depth : Nat} {c : Cursor}
    (opened : closes = true → depth < c.depth) : c.leave? closes = some (c.leave closes) :=
  leave?_eq_some_iff.mpr ⟨fun closed => Nat.zero_lt_of_lt (opened closed), rfl⟩

theorem Cursor.le_depth_leave {closes : Bool} {depth : Nat} {c : Cursor}
    (opened : closes = true → depth < c.depth) (deep : depth ≤ c.depth) :
    depth ≤ (c.leave closes).depth := by
  cases closes with
  | false => exact deep
  | true => exact Nat.le_sub_one_of_lt (opened rfl)

/-- A script that keeps its duties runs to an end, if all do that have less to do. -/
theorem Script.Keeps.exists_runs [Regex.Engine] {depth limit measure : Nat}
    (smaller : ∀ (p : Production) c, p.measure c < measure → p.Ends c) {s : Script} :
    ∀ {c : Cursor}, s.Keeps depth limit measure c → depth ≤ c.depth →
      ∃ r, s.Runs c r ∧ r.Settles depth limit := by
  induction s with
  | done e => exact fun keeps _ => ⟨_, .done, keeps⟩
  | fail taken e => exact fun _ deep => ⟨_, .fail, deep⟩
  | look next ih =>
    intro c keeps deep
    obtain ⟨r, runs, settles⟩ := ih _ keeps deep
    exact ⟨r, .look runs, settles⟩
  | advance next ih =>
    intro c keeps deep
    obtain ⟨r, runs, settles⟩ := ih keeps deep
    exact ⟨r, .advance runs, settles⟩
  | deepen offset next ih =>
    intro c keeps deep
    by_cases full : maxNesting ≤ c.depth
    · exact ⟨_, .full full, deep⟩
    · obtain ⟨r, runs, settles⟩ := ih keeps (Nat.le_succ_of_le deep)
      exact ⟨r, .deepen (Nat.lt_of_not_le full) runs, settles⟩
  | restore before next ih =>
    rintro c ⟨rfl, keeps⟩ deep
    obtain ⟨r, runs, settles⟩ := ih keeps (Nat.le_refl _)
    exact ⟨r, .restore runs, settles⟩
  | call closes σ next ih =>
    rintro c ⟨less, opened, -, more⟩ deep
    obtain ⟨r, inner, settles⟩ := smaller (.whole σ) c less
    cases r with
    | done e d =>
      obtain ⟨same, shorter⟩ := settles
      -- The callee has put its levels back, so the one that is closed is the caller's own.
      rw [← same] at opened deep
      obtain ⟨r, runs, settles⟩ := ih e (more e d same shorter) (Cursor.le_depth_leave opened deep)
      exact ⟨r, .call inner (Cursor.leave?_eq_some opened) runs, settles⟩
    | failed e d taken =>
      -- After an error levels may be left open, but there are never fewer than before the call.
      have opened closed := Nat.lt_of_lt_of_le (opened closed) settles
      exact ⟨_, .raised inner (Cursor.leave?_eq_some opened),
        Cursor.le_depth_leave opened (Nat.le_trans deep settles)⟩
  | loop σ before left =>
    rintro c ⟨rfl, few, less⟩ deep
    obtain ⟨r, runs, settles⟩ := smaller (.links σ left) c less before limit deep few
    exact ⟨r, .loop runs, settles⟩

/-- Every production runs to an end, and there it has put the number of levels back. -/
theorem Production.ends [Regex.Engine] (p : Production) (c : Cursor) : p.Ends c := by
  suffices all : ∀ n (p : Production) c, p.measure c = n → p.Ends c from all _ p c rfl
  intro n
  induction n using Nat.strongRecOn with
  | ind n ih =>
    rintro p c rfl
    have smaller (p' : Production) (c' : Cursor) (less : p'.measure c' < p.measure c) :
        p'.Ends c' := ih _ less p' c' rfl
    cases p with
    | whole σ => exact (σ.keeps_script c).exists_runs smaller (Nat.le_refl _)
    | links σ left =>
      intro depth limit deep few
      exact (σ.keeps_turn deep few left).exists_runs smaller deep

/-! ## The reader as a machine -/

/-- A production that waits for one that it has called. -/
structure Activation where
  symbol : Symbol
  /-- Whether the call closes a level. -/
  closes : Bool
  next : Expr → Script

/-- A reader: at the steps of a production, or at the end of a production, with all that wait. -/
inductive Reader
  | busy (c : Cursor) (σ : Symbol) (script : Script) (callers : List Activation)
  | returning (ending : Ending) (callers : List Activation)

namespace Reader

/-- A production that is entered from outside. -/
def enter [Regex.Engine] (σ : Symbol) (c : Cursor) : Reader := busy c σ σ.script []

/-- One step. There is none behind the end of the first production, and none where a level would
have to be closed that is not open. -/
def next [Regex.Engine] : Reader → Option Reader
  | busy c _ (.done e) callers => some (returning (.done e c) callers)
  | busy c _ (.fail taken e) callers => some (returning (.failed e c taken) callers)
  | busy c σ (.look next) callers => some (busy c σ (next c.glance) callers)
  | busy c σ (.advance next) callers => some (busy c.advance σ next callers)
  | busy c σ (.deepen offset next) callers =>
    if c.depth < maxNesting then some (busy c.deeper σ next callers)
    else some (returning (.failed ⟨.nestedTooDeeply, offset⟩ c false) callers)
  | busy c σ (.restore depth next) callers => some (busy (c.atDepth depth) σ next callers)
  | busy c σ (.call closes τ next) callers =>
    some (busy c τ τ.script (⟨σ, closes, next⟩ :: callers))
  | busy c σ (.loop τ depth left) callers => some (busy c σ (τ.turn depth left) callers)
  | returning _ [] => none
  | returning (.done e d) (a :: callers) =>
    (d.leave? a.closes).map fun d => busy d a.symbol (a.next e) callers
  | returning (.failed e d taken) (a :: callers) =>
    (d.leave? a.closes).map fun d => returning (.failed e d taken) callers

/-- The reader gets from one state to another in any number of steps. -/
abbrev Reaches [Regex.Engine] : Reader → Reader → Prop :=
  Relation.ReflTransGen fun m m' => m.next = some m'

/-- Where the reader stands. -/
def cursor : Reader → Cursor
  | busy c _ _ _ => c
  | returning r _ => r.cursor

/-- The productions that are under way, the latest first. -/
def active : Reader → List Symbol
  | busy _ σ _ callers => σ :: callers.map (·.symbol)
  | returning _ callers => callers.map (·.symbol)

/-- A reader follows the runs of the scripts. -/
theorem reaches_of_runs [Regex.Engine] {s : Script} {c : Cursor} {r : Ending} (runs : s.Runs c r) :
    ∀ (σ : Symbol) (callers : List Activation),
      Reaches (busy c σ s callers) (returning r callers) := by
  induction runs with
  | done | fail => exact fun σ callers => .single rfl
  | look more ih | advance more ih | restore more ih | loop more ih =>
    exact fun σ callers => .head rfl (ih σ callers)
  | deepen room more ih => exact fun σ callers => .head (if_pos room) (ih σ callers)
  | full full => exact fun σ callers => .single (if_neg (Nat.not_lt.mpr full))
  | @call closes σ' next e c d d' r inner closed more ihInner ihMore =>
    intro σ callers
    have back : Reader.next (returning (.done e d) (⟨σ, closes, next⟩ :: callers)) =
        some (busy d' σ (next e) callers) := congrArg (Option.map _) closed
    exact .head rfl ((ihInner σ' _).trans (.head back (ihMore σ callers)))
  | @raised closes σ' next e c d d' taken inner closed ihInner =>
    intro σ callers
    have back : Reader.next (returning (.failed e d taken) (⟨σ, closes, next⟩ :: callers)) =
        some (returning (.failed e d' taken) callers) := congrArg (Option.map _) closed
    exact .head rfl ((ihInner σ' _).tail back)

/-- A reader that comes to an end comes to it from wherever it gets. -/
theorem Reaches.to_end [Regex.Engine] {m m' : Reader} {r : Ending}
    (ends : Reaches m (returning r [])) (reaches : Reaches m m') : Reaches m' (returning r []) := by
  have unique : Relator.RightUnique fun m m' : Reader => m.next = some m' := by
    intro m m₁ m₂ first second
    exact Option.some.inj (first.symm.trans second)
  obtain onward | beyond := Relation.ReflTransGen.total_of_right_unique unique reaches ends
  · exact onward
  · obtain rfl | ⟨m₁, step, -⟩ := beyond.cases_head
    · exact .refl
    · cases step

/-- A reader that comes to an end makes finitely many steps. -/
theorem Reaches.acc [Regex.Engine] {m : Reader} {r : Ending} (ends : Reaches m (returning r [])) :
    Acc (fun m' m => m.next = some m') m := by
  induction ends using Relation.ReflTransGen.head_induction_on with
  | refl => exact .intro _ fun m' step => by cases r <;> cases step
  | head step _ ih =>
    refine .intro _ fun m' step' => ?_
    cases step.symm.trans step'
    exact ih

/-! ## What every state keeps -/

/-- The reader has got from one cursor to another with no fewer levels open, and not too many. -/
structure Stands (c d : Cursor) : Prop where
  suffix : d.rest <:+ c.rest
  deep : c.depth ≤ d.depth
  inside : d.depth ≤ maxNesting

/-- The production of a symbol, entered at a cursor, was called by those that wait, all the way from
the first one on. -/
inductive Backs (c₀ : Cursor) (σ₀ : Symbol) : Cursor → Symbol → List Activation → Prop
  | first : Backs c₀ σ₀ c₀ σ₀ []
  | called {entry c : Cursor} {σ τ : Symbol} {closes : Bool} {next : Expr → Script}
    {callers : List Activation} (below : Backs c₀ σ₀ entry σ callers) (stands : Stands entry c)
    (opened : closes = true → entry.depth < c.depth) (loosest : τ = .or → closes = true)
    (keeps : ∀ e (d : Cursor), d.depth = c.depth → d.size < c.size →
      ∃ measure, (next e).Keeps entry.depth entry.size measure (d.leave closes)) :
    Backs c₀ σ₀ c τ (⟨σ, closes, next⟩ :: callers)

/-- What every state keeps that a reader gets to. -/
def Sound (c₀ : Cursor) (σ₀ : Symbol) : Reader → Prop
  | busy c σ s callers => ∃ entry measure, Backs c₀ σ₀ entry σ callers ∧ Stands entry c ∧
    s.Keeps entry.depth entry.size measure c
  | returning r callers => ∃ entry σ, Backs c₀ σ₀ entry σ callers ∧ Stands entry r.last ∧
    r.Settles entry.depth entry.size

variable {c₀ : Cursor} {σ₀ : Symbol}

theorem Stands.leave {closes : Bool} {entry c d : Cursor} (outer : Stands entry c)
    (stands : Stands c d) (opened : closes = true → entry.depth < c.depth) :
    Stands entry (d.leave closes) := by
  have opened closed := Nat.lt_of_lt_of_le (opened closed) stands.deep
  refine ⟨?_, Cursor.le_depth_leave opened (Nat.le_trans outer.deep stands.deep), ?_⟩
  · rw [Cursor.rest_leave]
    exact stands.suffix.trans outer.suffix
  · rw [Cursor.depth_leave]
    exact Nat.le_trans (Nat.sub_le _ _) stands.inside

/-- One step keeps it: within a production by the duties of its steps, at a call by those of the
production that is entered, and behind a call by what the caller waits for. -/
theorem Sound.step [Regex.Engine] {m m' : Reader} (sound : Sound c₀ σ₀ m)
    (step : m.next = some m') : Sound c₀ σ₀ m' := by
  cases m with
  | busy c σ script callers =>
    obtain ⟨entry, measure, backs, stands, keeps⟩ := sound
    cases script with
    | done e =>
      cases step
      exact ⟨entry, σ, backs, stands, keeps⟩
    | fail taken e =>
      cases step
      exact ⟨entry, σ, backs, stands, stands.deep⟩
    | look next =>
      cases step
      exact ⟨entry, measure, backs, stands, keeps⟩
    | advance next =>
      cases step
      have onward : Stands entry c.advance :=
        ⟨(List.tail_suffix _).trans stands.suffix, stands.deep, stands.inside⟩
      exact ⟨entry, measure, backs, onward, keeps⟩
    | deepen offset next =>
      by_cases room : c.depth < maxNesting
      · cases (if_pos room).symm.trans step
        exact ⟨entry, measure, backs, ⟨stands.suffix, Nat.le_succ_of_le stands.deep, room⟩, keeps⟩
      · cases (if_neg room).symm.trans step
        exact ⟨entry, σ, backs, stands, stands.deep⟩
    | restore depth next =>
      cases step
      obtain ⟨rfl, keeps⟩ := keeps
      have back : Stands entry (c.atDepth entry.depth) :=
        ⟨stands.suffix, Nat.le_refl _, Nat.le_trans stands.deep stands.inside⟩
      exact ⟨entry, measure, backs, back, keeps⟩
    | call closes τ next =>
      cases step
      obtain ⟨-, opened, loosest, more⟩ := keeps
      have called := backs.called stands opened loosest fun e d same shorter =>
        ⟨measure, more e d same shorter⟩
      have entered : Stands c c := ⟨List.suffix_rfl, Nat.le_refl _, stands.inside⟩
      exact ⟨c, _, called, entered, τ.keeps_script c⟩
    | loop τ before left =>
      cases step
      obtain ⟨rfl, few, -⟩ := keeps
      exact ⟨entry, _, backs, stands, τ.keeps_turn stands.deep few left⟩
  | returning r callers =>
    obtain ⟨c, τ, backs, stands, settles⟩ := sound
    cases backs with
    | first => cases r <;> cases step
    | called below outer opened loosest keeps =>
      have opened' closed := Nat.lt_of_lt_of_le (opened closed) stands.deep
      have back := outer.leave stands opened
      cases r with
      | done e d =>
        obtain ⟨d', closed, rfl⟩ := Option.map_eq_some_iff.mp step
        cases (Cursor.leave?_eq_some opened').symm.trans closed
        obtain ⟨measure, keeps⟩ := keeps e d settles.1 settles.2
        exact ⟨_, measure, below, back, keeps⟩
      | failed e d taken =>
        obtain ⟨d', closed, rfl⟩ := Option.map_eq_some_iff.mp step
        cases (Cursor.leave?_eq_some opened').symm.trans closed
        exact ⟨_, _, below, back, back.deep⟩

/-- So does every run. -/
theorem Sound.reaches [Regex.Engine] {m m' : Reader} (sound : Sound c₀ σ₀ m)
    (reaches : Reaches m m') : Sound c₀ σ₀ m' := by
  induction reaches with
  | refl => exact sound
  | tail _ step ih => exact ih.step step

theorem sound_enter [Regex.Engine] (σ : Symbol) {c : Cursor} (room : c.depth ≤ maxNesting) :
    Sound c σ (enter σ c) :=
  ⟨c, _, .first, ⟨List.suffix_rfl, Nat.le_refl _, room⟩, σ.keeps_script c⟩

theorem Backs.stands {entry c : Cursor} {σ : Symbol} {callers : List Activation}
    (backs : Backs c₀ σ₀ entry σ callers) (stands : Stands entry c) : Stands c₀ c := by
  induction backs with
  | first => exact stands
  | called below outer opened loosest keeps ih =>
    exact ih ⟨stands.suffix.trans outer.suffix, Nat.le_trans outer.deep stands.deep, stands.inside⟩

/-- The loosest symbol is under way once, and once more for each level that is open. -/
theorem Backs.count_or_le {entry : Cursor} {σ : Symbol} {callers : List Activation}
    (backs : Backs c₀ σ₀ entry σ callers) :
    (σ :: callers.map (·.symbol)).count .or + c₀.depth ≤ entry.depth + 1 := by
  induction backs with
  | first =>
    rw [List.map_nil, Nat.add_comm]
    exact Nat.add_le_add_left List.count_le_length _
  | @called entry c σ τ closes next callers below stands opened loosest keeps ih =>
    rw [List.count_cons, List.map_cons]
    have deep := stands.deep
    by_cases same : τ = .or
    · have deeper := opened (loosest same)
      simp only [same, beq_self_eq_true, if_true]
      omega
    · simp only [beq_eq_false_iff_ne.mpr same, Bool.false_eq_true, if_false]
      omega

theorem Sound.stands {m : Reader} (sound : Sound c₀ σ₀ m) : Stands c₀ m.cursor := by
  cases m with
  | busy c σ s callers =>
    obtain ⟨entry, measure, backs, stands, -⟩ := sound
    exact backs.stands stands
  | returning r callers =>
    obtain ⟨entry, σ, backs, stands, -⟩ := sound
    obtain ⟨suffix, deep, inside⟩ := backs.stands stands
    rw [cursor]
    refine ⟨?_, ?_, ?_⟩
    · obtain _ | ⟨e, d, taken⟩ := r
      · exact suffix
      · cases taken with
        | false => exact suffix
        | true => exact (List.tail_suffix _).trans suffix
    · rwa [Ending.depth_cursor]
    · rwa [Ending.depth_cursor]

theorem Sound.count_or_le {m : Reader} (sound : Sound c₀ σ₀ m) :
    m.active.count .or ≤ maxNesting - c₀.depth + 1 := by
  cases m with
  | busy c σ s callers =>
    obtain ⟨entry, measure, backs, ⟨-, deep, inside⟩, -⟩ := sound
    have counted := backs.count_or_le
    rw [active]
    omega
  | returning r callers =>
    obtain ⟨entry, σ, backs, ⟨-, deep, inside⟩, -⟩ := sound
    have counted := backs.count_or_le
    have waiting := List.count_le_count_cons (a := Symbol.or) (b := σ) (l := callers.map (·.symbol))
    rw [active]
    omega

/-- The counters of a reader are where they may be: the position inside the tokens, behind where the
production was entered, and the number of levels between what it was there and the greatest one. -/
structure Disciplined (tokens : List Lexeme) (position depth : Nat) (m : Reader) : Prop where
  placed : ∃ k, position ≤ k ∧ k ≤ tokens.length ∧ m.cursor.rest = tokens.drop k
  deep : depth ≤ m.cursor.depth
  inside : m.cursor.depth ≤ maxNesting
  few : m.active.count .or ≤ maxNesting - depth + 1

end Reader

/-- What is left of the tokens from a position on is what is behind a later position. -/
theorem exists_position_of_suffix {tokens rest : List Lexeme} {position : Nat}
    (suffix : rest <:+ tokens.drop position) (inside : position ≤ tokens.length) :
    ∃ k, position ≤ k ∧ k ≤ tokens.length ∧ rest = tokens.drop k := by
  have size := suffix.length_le
  rw [List.length_drop] at size
  refine ⟨tokens.length - rest.length, by omega, Nat.sub_le _ _, ?_⟩
  exact List.suffix_iff_eq_drop.mp (suffix.trans (List.drop_suffix _ _))

open Reader in
/-- A reader that enters a production at any position inside the tokens, with any number of open
levels that may be, keeps its counters in bounds from state to state, comes to its end after
finitely many steps, wherever it is on the way there, and the end is the outcome of the production.
If that is an expression, then at least one token was taken and as many levels are open as
before. -/
theorem Symbol.reader_disciplined [Regex.Engine] (σ : Symbol) (tokens : List Lexeme)
    (finish position depth : Nat) (inside : position ≤ tokens.length) (room : depth ≤ maxNesting) :
    (∀ m, Reaches (enter σ ⟨tokens.drop position, finish, depth⟩) m →
      m.Disciplined tokens position depth) ∧
    (∀ e d, σ.run ⟨tokens.drop position, finish, depth⟩ = .ok (e, d) →
      d.depth = depth ∧ ∃ k, position < k ∧ k ≤ tokens.length ∧ d.rest = tokens.drop k) ∧
    Acc (fun m' m => m.next = some m') (enter σ ⟨tokens.drop position, finish, depth⟩) ∧
    ∃ r : Ending, r.outcome = σ.run ⟨tokens.drop position, finish, depth⟩ ∧
      ∀ m, Reaches (enter σ ⟨tokens.drop position, finish, depth⟩) m →
        Reaches m (returning r []) := by
  have sound := sound_enter σ (c := ⟨tokens.drop position, finish, depth⟩) room
  obtain ⟨r, runs, settles⟩ := (Production.whole σ).ends ⟨tokens.drop position, finish, depth⟩
  have ends := reaches_of_runs runs σ []
  have outcome : r.outcome = σ.run ⟨tokens.drop position, finish, depth⟩ :=
    runs.outcome_eq.trans (σ.run_eq _).symm
  refine ⟨fun m reaches => ?_, fun e d read => ?_, ends.acc, r, outcome, fun m => ends.to_end⟩
  · have sound := sound.reaches reaches
    obtain ⟨suffix, deep, low⟩ := sound.stands
    exact ⟨exists_position_of_suffix suffix inside, deep, low, sound.count_or_le⟩
  · rw [← outcome] at read
    cases r with
    | failed => cases read
    | done =>
      cases read
      obtain ⟨k, after, within, same⟩ := exists_position_of_suffix runs.suffix inside
      refine ⟨settles.1, k, Nat.lt_of_le_of_ne after ?_, within, same⟩
      rintro rfl
      have shorter : d.rest.length < (tokens.drop position).length := settles.2
      rw [show d.rest = _ from same] at shorter
      exact Nat.lt_irrefl _ shorter

/-- The operand of a denial, entered with one level left. -/
theorem Symbol.group_is_disciplined :
    1 ≤ 4 ∧ 255 ≤ maxNesting ∧ ∀ m, Reader.Reaches (Reader.enter .not ⟨[⟨.leftParen, 1⟩,
      ⟨.identifier "a", 2⟩, ⟨.rightParen, 3⟩], 4, 255⟩) m →
        255 ≤ m.cursor.depth ∧ m.cursor.depth ≤ maxNesting ∧ m.active.count .or ≤ 2 := by
  refine ⟨by decide, by decide, fun m reaches => ?_⟩
  have kept := (reader_disciplined .not [⟨.not, 0⟩, ⟨.leftParen, 1⟩, ⟨.identifier "a", 2⟩,
    ⟨.rightParen, 3⟩] 4 1 255 (by decide) (by decide)).1 m reaches
  exact ⟨kept.deep, kept.inside, kept.few⟩

end Remap.Expression
