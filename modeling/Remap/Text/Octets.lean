import Remap.Text.Ranges

/-!
# Ranges of byte sequences

The code points of a range as sequences of byte ranges: a code point is in the range exactly when
its bytes are, one by one, in the ranges of one of the sequences. A range is cut at the surrogates,
where the number of bytes changes, and where a byte starts over while an earlier one moves on.
-/

namespace Remap.Text.Octets

/-- Where the number of bytes changes inside a range. -/
def lengthCut? (lo hi : Nat) : Option Nat :=
  [0x80, 0x800, 0x10000].find? fun m => lo < m && m ≤ hi

/-- Where to cut a range that reaches into several blocks and does not fill the first one or the
last one. -/
def blockCut? (lo hi block : Nat) : Option Nat :=
  if lo / block == hi / block then none
  else if lo % block != 0 then some ((lo / block + 1) * block)
  else if hi % block != block - 1 then some (hi / block * block)
  else none

/-- Where a range has to be cut: the start of its second part. -/
def cut? (lo hi : Nat) : Option Nat :=
  if lo < 0xE000 && 0xE000 ≤ hi then some 0xE000
  else
    (lengthCut? lo hi).or
      (if hi < 0x80 then none else [0x40, 0x1000, 0x40000].findSome? (blockCut? lo hi))

/-- A range as parts in each of which all bytes vary on their own. -/
def pieces (lo hi : Nat) : List (Nat × Nat) :=
  match cut? lo hi with
  | none => [(lo, hi)]
  | some m =>
    if _ : lo < m ∧ m ≤ hi then pieces lo (Ranges.previous m) ++ pieces m hi else [(lo, hi)]
termination_by hi - lo
decreasing_by
  · have := Ranges.previous_le m; omega
  · omega

/-- The bytes of a code point. -/
def ofPoint (n : Nat) : List Nat := (String.utf8EncodeChar (Char.ofNat n)).map UInt8.toNat

/-- The byte sequences of a range of code points, in ascending order. -/
def ofRange (r : Nat × Nat) : List (List (Nat × Nat)) :=
  (pieces r.1 r.2).map fun piece => (ofPoint piece.1).zip (ofPoint piece.2)

end Remap.Text.Octets
