/-!
# Doubles as exact fractions

A double-precision number is a sign, a whole coefficient and a power of two, or infinite, or not
a number. This module takes a `Float` apart into these and rounds an exact fraction to the
nearest double, ties to the even coefficient.
-/

namespace Remap.Number

/-- What a double stands for: `finite negative m q` is `± m * 2 ^ q`. -/
inductive Binary
  | finite (negative : Bool) (m : Nat) (q : Int)
  | infinite (negative : Bool)
  | notANumber
  deriving DecidableEq, Repr

namespace Binary

/-- The least exponent, that of the subnormal numbers. -/
def leastExponent : Int := -1074

/-- The number that a bit pattern encodes. -/
def ofBits (bits : UInt64) : Binary :=
  let n := bits.toNat
  let negative := n / Nat.pow 2 63 == 1
  let exponent : Nat := n / Nat.pow 2 52 % Nat.pow 2 11
  let fraction := n % Nat.pow 2 52
  if exponent == 2047 then
    if fraction == 0 then .infinite negative else .notANumber
  else if exponent == 0 then .finite negative fraction leastExponent
  else .finite negative (Nat.pow 2 52 + fraction) ((exponent : Int) - 1075)

/-- What a `Float` stands for. -/
def ofFloat (x : Float) : Binary := ofBits x.toBits

/-- The exact integer that a finite number is, if it is one. -/
def toInt? : Binary → Option Int
  | .finite negative m q =>
    let signed (n : Nat) : Int := if negative then -(n : Int) else n
    if 0 ≤ q then some (signed (m * Nat.pow 2 q.toNat))
    else if m % Nat.pow 2 (-q).toNat == 0 then some (signed (m / Nat.pow 2 (-q).toNat))
    else none
  | _ => none

end Binary

/-- A quotient rounded to the nearest whole number, a half to the even neighbour. -/
def roundDiv (num den : Nat) : Nat :=
  let quotient := num / den
  let rest := num % den
  if 2 * rest < den then quotient
  else if den < 2 * rest then quotient + 1
  else quotient + quotient % 2

/-- The bits of the double nearest to `num / den`, infinity from the overflow threshold on. -/
def nearestBits (num den : Nat) : Nat :=
  if num == 0 || den == 0 then 0
  else
    let t : Int := (Nat.log2 num : Int) - Nat.log2 den
    let scaled (q : Int) : Nat × Nat :=
      if 0 ≤ q then (num, den * Nat.pow 2 q.toNat) else (num * Nat.pow 2 (-q).toNat, den)
    let low := max (t - 53) Binary.leastExponent
    let (n, d) := scaled low
    let q := if d * Nat.pow 2 53 ≤ n then low + 1 else low
    let (n, d) := scaled q
    let m := roundDiv n d
    let (m, q) := if m == Nat.pow 2 53 then (Nat.pow 2 52, q + 1) else (m, q)
    if m < Nat.pow 2 52 then m
    else if 971 < q then 2047 * Nat.pow 2 52
    else (q + 1075).toNat * Nat.pow 2 52 + (m - Nat.pow 2 52)

/-- The double with a sign and the other bits. -/
def ofSignAndBits (negative : Bool) (bits : Nat) : Float :=
  Float.ofBits (UInt64.ofNat ((if negative then Nat.pow 2 63 else 0) + bits))

/-- The infinite doubles. -/
def infinity (negative : Bool) : Float := ofSignAndBits negative (2047 * Nat.pow 2 52)

/-- The double that is not a number. -/
def notANumber : Float := ofSignAndBits false (2047 * Nat.pow 2 52 + Nat.pow 2 51)

/-- The double nearest to `± num / den`. -/
def nearest (negative : Bool) (num den : Nat) : Float :=
  ofSignAndBits negative (nearestBits num den)

/-- The double nearest to `± coefficient * 10 ^ exponent`. Exponents far outside the range of
doubles are decided by the size alone. -/
def ofDecimal (negative : Bool) (coefficient : Nat) (exponent : Int) : Float :=
  if coefficient == 0 then nearest negative 0 1
  else
    let size := (Nat.log2 coefficient : Int) * 30103 / 100000 + exponent
    if 400 < size then infinity negative
    else if size < -400 then nearest negative 0 1
    else if 0 ≤ exponent then nearest negative (coefficient * Nat.pow 10 exponent.toNat) 1
    else nearest negative coefficient (Nat.pow 10 (-exponent).toNat)

/-- The double nearest to a whole number. -/
def ofInt (n : Int) : Float :=
  nearest (n < 0) n.natAbs 1

end Remap.Number
