import Remap.Text.Ranges

/-!
# Run-length tables

A table that gives every code point a value, written as text: a number and a letter say how many
code points in a row have the value of that letter, a missing number says one. The letters are
the capital ones and then the small ones, and count the values.
-/

namespace Remap.Text.RunLength

/-- The position of a letter among the capital and then the small ones. -/
def position? (c : Char) : Option Nat :=
  if 'A' ≤ c ∧ c ≤ 'Z' then some (c.toNat - 65)
  else if 'a' ≤ c ∧ c ≤ 'z' then some (c.toNat - 71)
  else none

/-- The runs of a text: where each starts, and its value. -/
def runs {α : Type} (values : Array α) : List Char → (start count : Nat) → List (Nat × α)
  | [], _, _ => []
  | c :: cs, start, count =>
    if c.isDigit then runs values cs start (10 * count + (c.toNat - 48))
    else
      match (position? c).bind (values[·]?) with
      | none => runs values cs start 0
      | some value => (start, value) :: runs values cs (start + max count 1) 0

/-- The value of the last run that starts at or before `n`, looked for in `[lo, hi)`. -/
def lookUp {α : Type} (fallback : α) (table : Array (Nat × α)) (n lo hi : Nat) : α :=
  if lo + 1 < hi then
    let mid := (lo + hi) / 2
    match table[mid]? with
    | none => fallback
    | some (start, _) =>
      if start ≤ n then lookUp fallback table n mid hi else lookUp fallback table n lo mid
  else ((table[lo]?).map (·.2)).getD fallback
termination_by hi - lo

/-- The code points whose value passes a test. -/
def rangesWhere {α : Type} (test : α → Bool) : List (Nat × α) → Ranges
  | [] => []
  | [(start, value)] => if test value then [(start, Ranges.last)] else []
  | (start, value) :: (start', value') :: rest =>
    let others := rangesWhere test ((start', value') :: rest)
    if test value then
      match others with
      | (lo, hi) :: more =>
        if lo == start' then (start, hi) :: more else (start, start' - 1) :: others
      | [] => [(start, start' - 1)]
    else others

end Remap.Text.RunLength
