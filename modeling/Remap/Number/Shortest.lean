import Remap.Number.Binary
import Remap.Number.Digits

/-!
# The shortest decimal that reads back

Among the decimals that round to a given double, one with the fewest digits, and of those the
nearest to it. All arithmetic is exact: the number and the ends of the interval that rounds to
it are whole multiples of one power of ten.
-/

namespace Remap.Number

/-- Which neighbour an exact tie between two shortest decimals goes to. -/
inductive Tie
  | up | even
  deriving DecidableEq, Repr

/-- A nonnegative decimal, `coefficient * 10 ^ exponent`. -/
structure Decimal where
  coefficient : Nat
  exponent : Int
  deriving DecidableEq, Repr

namespace Decimal

/-- Without the zeros at the coefficient's end. -/
def strip (coefficient : Nat) (exponent : Int) : Decimal :=
  if h : coefficient ≠ 0 ∧ coefficient % 10 = 0 then strip (coefficient / 10) (exponent + 1)
  else ⟨coefficient, exponent⟩
termination_by coefficient
decreasing_by omega

/-- The whole numbers that round to the same double, as multiples of `10 ^ exponent`: the double
itself, the ends of its interval, and whether the ends belong to it. -/
structure Interval where
  value : Nat
  lower : Nat
  upper : Nat
  closed : Bool
  exponent : Int

/-- The interval of reals that round to `m * 2 ^ q`. Below a power of two the numbers are twice
as dense, so the interval reaches only half as far down. -/
def interval (m : Nat) (q : Int) : Interval :=
  let below := if m == Nat.pow 2 52 && q != Binary.leastExponent then 1 else 2
  let scale := if 2 ≤ q then Nat.pow 2 (q - 2).toNat else Nat.pow 5 (2 - q).toNat
  { value := 4 * m * scale
    lower := (4 * m - below) * scale
    upper := (4 * m + 2) * scale
    closed := m % 2 == 0
    exponent := if 2 ≤ q then 0 else q - 2 }

/-- A point lies in the interval. -/
def Interval.contains (i : Interval) (n : Nat) : Bool :=
  if i.closed then i.lower ≤ n && n ≤ i.upper else i.lower < n && n < i.upper

/-- The nearest multiple of `10 ^ j` that lies in the interval, if one of the value's two
neighbours on that grid does. -/
def Interval.onGrid? (i : Interval) (tie : Tie) (j : Nat) : Option Decimal :=
  let unit := Nat.pow 10 j
  let c := i.value / unit
  let rest := i.value % unit
  let roundUp : Bool := match tie with
    | .up => unit ≤ 2 * rest
    | .even => unit < 2 * rest || (unit == 2 * rest && c % 2 == 1)
  let down := i.contains (c * unit)
  let up := i.contains ((c + 1) * unit)
  let exponent := i.exponent + j
  if down && up then some (strip (if roundUp then c + 1 else c) exponent)
  else if down then some (strip c exponent)
  else if up then some (strip (c + 1) exponent)
  else none

/-- The shortest decimal that rounds to `m * 2 ^ q`, the nearest of those. -/
def shortest (tie : Tie) (m : Nat) (q : Int) : Decimal :=
  if m == 0 then ⟨0, 0⟩
  else
    let i := interval m q
    let size := (digits i.value).length
    match (List.range 17).findSome? fun n => i.onGrid? tie (size - (n + 1)) with
    | some d => d
    | none => strip i.value i.exponent

end Decimal

end Remap.Number
