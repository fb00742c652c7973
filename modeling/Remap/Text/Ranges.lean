/-!
# Ranges of code points

Sets of code points as lists of ranges. A list in its usual form ascends, and a gap of at least one
number is between two ranges; all operations give lists in this form when they get such lists.

Surrogates are numbers but no characters. The complement and the difference step over them, so that
a range that starts or ends beside them never does so inside them.
-/

namespace Remap.Text

/-- A set of code points: the two bounds of each range, both included. -/
abbrev Ranges := List (Nat × Nat)

namespace Ranges

/-- The greatest code point. -/
def last : Nat := 0x10FFFF

/-- The character after a character. -/
def next (n : Nat) : Nat := if n = 0xD7FF then 0xE000 else n + 1

/-- The character before a character. -/
def previous (n : Nat) : Nat := if n = 0xE000 then 0xD7FF else n - 1

theorem previous_le (n : Nat) : previous n ≤ n - 1 := by
  unfold previous
  split <;> omega

/-- Membership. -/
def contains : Ranges → Nat → Bool
  | [], _ => false
  | (lo, hi) :: rest, n => if n < lo then false else n ≤ hi || contains rest n

/-- Ranges in ascending order of their starts, with those that touch joined. -/
def joinTouching : Ranges → Ranges
  | [] => []
  | [r] => [r]
  | (lo, hi) :: (lo', hi') :: rest =>
    if lo' ≤ hi + 1 then joinTouching ((lo, max hi hi') :: rest)
    else (lo, hi) :: joinTouching ((lo', hi') :: rest)
termination_by rs => rs.length

/-- The set of some ranges in any order. -/
def ofList (rs : List (Nat × Nat)) : Ranges :=
  joinTouching (rs.mergeSort fun a b => a.1 < b.1 || (a.1 == b.1 && a.2 ≤ b.2))

/-- The set of some code points. -/
def ofPoints (ns : List Nat) : Ranges := ofList (ns.map fun n => (n, n))

/-- Two ascending lists of ranges as one. -/
def interleave : Ranges → Ranges → Ranges
  | [], bs => bs
  | as, [] => as
  | a :: as, b :: bs =>
    if a.1 ≤ b.1 then a :: interleave as (b :: bs) else b :: interleave (a :: as) bs

/-- The code points of either set. -/
def union (a b : Ranges) : Ranges := joinTouching (interleave a b)

/-- The code points of several sets. -/
def unions (rs : List Ranges) : Ranges := ofList rs.flatten

/-- The code points of both sets. -/
def inter : Ranges → Ranges → Ranges
  | [], _ => []
  | _, [] => []
  | (lo, hi) :: as, (lo', hi') :: bs =>
    let rest :=
      if hi < hi' then inter as ((lo', hi') :: bs) else inter ((lo, hi) :: as) bs
    if max lo lo' ≤ min hi hi' then (max lo lo', min hi hi') :: rest else rest

/-- The code points of the first set that are not in the second one. -/
def diff : Ranges → Ranges → Ranges
  | [], _ => []
  | as, [] => as
  | (lo, hi) :: as, (lo', hi') :: bs =>
    if hi' < lo then diff ((lo, hi) :: as) bs
    else if hi < lo' then (lo, hi) :: diff as ((lo', hi') :: bs)
    else
      let before := if lo < lo' then [(lo, previous lo')] else []
      if hi' < hi then before ++ diff ((max lo (next hi'), hi) :: as) bs
      else before ++ diff as ((lo', hi') :: bs)
termination_by as bs => as.length + bs.length

/-- The code points of exactly one of two sets. -/
def symmDiff (a b : Ranges) : Ranges := diff (union a b) (inter a b)

/-- The gaps behind a code point, between ranges and after the last one. Where no character is
between two ranges, both characters at their ends are left. -/
def gapsAfter (n : Nat) : Ranges → Ranges
  | [] => if n < last then [(next n, last)] else []
  | (lo, hi) :: rest =>
    (min (next n) (previous lo), max (next n) (previous lo)) :: gapsAfter hi rest

/-- All other code points. -/
def compl : Ranges → Ranges
  | [] => [(0, last)]
  | (lo, hi) :: rest =>
    ofList ((if 0 < lo then [(0, previous lo)] else []) ++ gapsAfter hi rest)

/-- All code points are of ASCII. -/
def isAscii (r : Ranges) : Bool := r.all fun range => range.2 < 128

/-- A hexadecimal number in capital letters. -/
def ofHex (cs : List Char) : Nat :=
  cs.foldl (fun n c => 16 * n + (if c.isDigit then c.toNat - 48 else c.toNat - 55)) 0

/-- A range as it is written: two bounds around a hyphen, or one number. -/
def readRange (cs : List Char) : Nat × Nat :=
  match cs.dropWhile (· != '-') with
  | [] => (ofHex cs, ofHex cs)
  | _ :: hi => (ofHex (cs.takeWhile (· != '-')), ofHex hi)

/-- The ranges that are written in lines, with spaces between them. -/
def ofLines (lines : List String) : Ranges :=
  lines.flatMap fun line => (line.splitOn " ").map fun range => readRange range.toList

end Ranges

end Remap.Text
