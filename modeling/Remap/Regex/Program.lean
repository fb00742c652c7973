import Remap.Regex.Simplify
import Remap.Text.Octets
import Std.Data.HashMap

/-!
# The room of a program

A pattern is run as a program of states that reads bytes, in one form that reads forward and one
that reads backward. The room of a program is the number of its states and of the bytes that lists
of edges take besides; a pattern is accepted when both forms stay within a limit.

States are counted in the order in which they are made. The states of a set are shared where they
have the same edges, as far as they are remembered: what was made before is kept in slots, and a
slot keeps the last state only. So the order decides the count.
-/

namespace Remap.Regex

/-- What a program takes: the number of states, and the bytes of their lists. -/
structure Room where
  states : Nat
  listed : Nat
  deriving DecidableEq, Repr, Inhabited

namespace Room

/-- The most bytes that a program may take. -/
def limit : Nat := 10485760

/-- The bytes of a program: thirty-two for a state, and its lists. -/
def bytes (r : Room) : Nat := 32 * r.states + r.listed

/-- The program takes too much room. -/
def isOver (r : Room) : Bool := limit < r.bytes

/-- Room for one more state with a list of so many bytes. -/
def state (r : Room) (listed : Nat) : Room := ⟨r.states + 1, r.listed + listed⟩

/-- The bytes of a list of so many ranges of bytes with a state for each. -/
def edges (n : Nat) : Nat := 8 * n

/-- The bytes of a list of so many states. -/
def exits (n : Nat) : Nat := 4 * n

/-- A step repeated, but not any more once there is too much. -/
def copies (step : Room → Room) : Nat → Room → Room
  | 0, r => r
  | n + 1, r => if r.isOver then r else copies step n (step r)

end Room

/-! ## Sets -/

/-- A range of bytes, and the state that it leads to. -/
structure Edge where
  lo : Nat
  hi : Nat
  target : Nat
  deriving DecidableEq, Repr

/-- One more number in a hash. -/
def mixHash (hash : UInt64) (n : Nat) : UInt64 := (hash ^^^ n.toUInt64) * 1099511628211

/-- The hash of nothing. -/
def emptyHash : UInt64 := 14695981039346656037

/-- The slot of some edges, of so many slots. -/
def slotOf (slots : Nat) (edges : List Edge) : Nat :=
  let hash := edges.foldl (fun h e => mixHash (mixHash (mixHash h e.lo) e.hi) e.target) emptyHash
  hash.toNat % slots

/-- The states made so far, with what is remembered of them: in each slot, the edges and the number
of one state. -/
structure Memo where
  room : Room
  slots : Std.HashMap Nat (List Edge × Nat)

/-- A new state with some edges, kept in a slot. -/
def Memo.add (memo : Memo) (slot listed : Nat) (edges : List Edge) : Nat × Memo :=
  let n := memo.room.states
  (n, ⟨memo.room.state listed, memo.slots.insert slot (edges, n)⟩)

/-- The state with some edges: the one that is remembered, or a new one with a list of so many
bytes. -/
def Memo.state (memo : Memo) (slots listed : Nat) (edges : List Edge) : Nat × Memo :=
  let slot := slotOf slots edges
  match memo.slots[slot]? with
  | some (known, n) => if known = edges then (n, memo) else memo.add slot listed edges
  | none => memo.add slot listed edges

/-- A state that still gets edges: those it has, last first, and the bytes of the one whose target
is not made yet. -/
structure OpenState where
  edges : List Edge
  last : Option (Nat × Nat)

/-- The edges of a state when the target of the last one is made. -/
def OpenState.close (s : OpenState) (target : Nat) : List Edge :=
  match s.last with
  | some (lo, hi) => ⟨lo, hi, target⟩ :: s.edges
  | none => s.edges

/-- Makes the states of a path from the last one to the first, the last one leading to `final`. -/
def sealPath (final : Nat) : List OpenState → Memo → Nat × Memo
  | [], memo => (final, memo)
  | s :: path, memo =>
    let (target, memo) := sealPath final path memo
    let edges := (s.close target).reverse
    memo.state 10000 (Room.edges edges.length) edges

/-- Adds a byte sequence to the path of the states that still get edges. The states in which it
leaves the path can be made. -/
def extendPath (final : Nat) : List (Nat × Nat) → List OpenState → Memo → List OpenState × Memo
  | ranges, [], memo => (ranges.map fun r => ⟨[], some r⟩, memo)
  | [], path, memo => (path, memo)
  | r :: ranges, s :: path, memo =>
    if s.last = some r then
      let (path, memo) := extendPath final ranges path memo
      (s :: path, memo)
    else
      let (target, memo) := sealPath final path memo
      (⟨s.close target, some r⟩ :: ranges.map (⟨[], some ·⟩), memo)

/-- The states of a set that reads its bytes forward: equal ends of sequences are shared. -/
def forwardRoom (s : CharSet) (r : Room) : Room :=
  let final := r.states
  let (path, memo) := (s.flatMap Text.Octets.ofRange).foldl
    (fun (path, memo) ranges => extendPath final ranges path memo)
    ([⟨[], none⟩], ⟨r.state 0, {}⟩)
  (sealPath final path memo).2.room

/-- The states of a set that reads its bytes backward: one with an exit for each sequence, and for
each byte one that is shared where the bytes before it in the text are the same. -/
def backwardRoom (s : CharSet) (r : Room) : Room :=
  let sequences := s.flatMap Text.Octets.ofRange
  let r := r.state (Room.exits sequences.length)
  let final := r.states
  let memo := sequences.foldl
    (fun memo ranges =>
      (ranges.foldl
        (fun (target, memo) (lo, hi) => memo.state 1000 0 [⟨lo, hi, target⟩])
        (final, memo)).2)
    (⟨r.state 0, {}⟩ : Memo)
  memo.room

/-- The states of a set. A set within ASCII needs an end and a state with an edge for each range. -/
def setRoom (backward : Bool) (s : CharSet) (r : Room) : Room :=
  if s.isAscii then (r.state 0).state (Room.edges s.length)
  else if backward then backwardRoom s r
  else forwardRoom s r

/-! ## Literals -/

/-- The bytes of some characters. -/
def octets (cs : List Char) : List Nat := cs.flatMap fun c => Text.Octets.ofPoint c.toNat

/-- Words in a row, cut where one ends: an empty word ends what can be tried before it. Of empty
words at the start one counts. -/
def cutAtEnds (started ended : Bool) : List (List Nat) → List (List (List Nat))
  | [] => [[]]
  | [] :: words =>
    if ended && !started then cutAtEnds started ended words
    else [] :: cutAtEnds started true words
  | word :: words =>
    match cutAtEnds true ended words with
    | part :: parts => (word :: part) :: parts
    | [] => [[word]]

/-- What is left of the words that start with a byte. -/
def tailsAfter (byte : Nat) (words : List (List Nat)) : List (List Nat) :=
  words.filterMap fun word =>
    match word with
    | [] => none
    | b :: rest => if b == byte then some rest else none

/-- The states that tell words of a length up to `depth` apart, byte by byte. -/
def wordsRoom : (depth : Nat) → List (List Nat) → Room → Room
  | 0, _, r => r
  | depth + 1, words, r =>
    let parts := cutAtEnds false false words
    let heads := parts.map fun part => (part.filterMap (·.head?)).eraseDups
    let deeper (part : List (List Nat)) (r : Room) (byte : Nat) : Room :=
      let tails := tailsAfter byte part
      if tails.all (·.isEmpty) then r else wordsRoom depth tails r
    let r := (parts.zip heads).foldl
      (fun r (part, bytes) =>
        let r := bytes.foldl (deeper part) r
        match bytes.length with
        | 0 => r
        | 1 => r.state 0
        | n => r.state (Room.edges n))
      r
    let exits := (heads.filter (!·.isEmpty)).length + (parts.length - 1)
    r.state (Room.exits exits)

/-! ## Patterns -/

/-- The words of an alternation of literals. -/
def Node.words? : Node → Option (List (List Char))
  | .literal cs => some [cs]
  | .alt (.literal cs) b => b.words?.map (cs :: ·)
  | _ => none

/-- Where a pattern stands in an alternation: nowhere, or as its second branch or a later one, with
all branches after it. -/
inductive Branch
  | whole | second | later
  deriving DecidableEq

/-- What is added after a branch: after the second one, the state where the branches part and the
one where they meet. -/
def Branch.finish (branch : Branch) (r : Room) : Room :=
  match branch with
  | .second => (r.state 0).state 0
  | _ => r

/-- The states of a pattern, added to those made before. -/
def Node.room (backward : Bool) : Branch → Node → Room → Room
  | branch, .empty, r => branch.finish (r.state 0)
  | branch, .literal cs, r => branch.finish { r with states := r.states + (octets cs).length }
  | branch, .set _ s, r => branch.finish (setRoom backward s r)
  | branch, .look _, r => branch.finish (r.state 0)
  | branch, .seq a b, r =>
    branch.finish <|
      if backward then a.room backward .whole (b.room backward .whole r)
      else b.room backward .whole (a.room backward .whole r)
  | .whole, .alt a b, r =>
    match (Node.alt a b).words? with
    | some words =>
      let words := words.map fun cs => if backward then (octets cs).reverse else octets cs
      wordsRoom ((words.map (·.length)).foldl max 0) words (r.state 0)
    | none =>
      let exits := Room.exits (Node.alt a b).branches.length
      b.room backward .second (a.room backward .whole { r with listed := r.listed + exits })
  | branch, .alt a b, r => b.room backward .later (branch.finish (a.room backward .whole r))
  | branch, .repeated a least most _, r =>
    let one := a.room backward .whole
    let optional (r : Room) := one (r.state (Room.exits 2))
    branch.finish <|
      match least, most with
      | 0, some 1 => (optional r).state 0
      | 0, none =>
        if a.minLength?.any (0 < ·) then optional r
        else (((one r).state (Room.exits 2)).state (Room.exits 2)).state 0
      | least, none => (Room.copies one least r).state (Room.exits 2)
      | least, some most =>
        let r := if least == 0 then r.state 0 else Room.copies one least r
        if least == most then r else Room.copies optional (most - least) (r.state 0)
  | branch, .group _ a, r =>
    branch.finish <|
      if backward then a.room backward .whole r
      else (a.room backward .whole (r.state 0)).state 0

/-- Every match starts, or for the backward form ends, at a place with a condition. -/
def Node.isBoundTo (backward : Bool) (l : Look) : Node → Bool
  | .look l' => l = l'
  | .seq a b =>
    if backward then
      b.isBoundTo backward l || (b.maxLength? == some 0 && a.isBoundTo backward l)
    else a.isBoundTo backward l || (a.maxLength? == some 0 && b.isBoundTo backward l)
  | .alt a b => a.isBoundTo backward l && b.isBoundTo backward l
  | .repeated a least _ _ => 0 < least && a.isBoundTo backward l
  | .group _ a => a.isBoundTo backward l
  | _ => false

/-- The room of the program of a pattern. A pattern whose matches need not start where the text
does has a loop before it that skips bytes; the forward form also notes where a match starts and
ends. -/
def Node.programRoom (backward : Bool) (node : Node) : Room :=
  let none : Room := ⟨0, 0⟩
  let bound := node.isBoundTo backward (if backward then .textEnd else .textStart)
  let start :=
    if bound then none.state 0
    else ((none.state (Room.exits 2)).state 0).state (Room.edges 1)
  let body :=
    if backward then node.room backward .whole start
    else (node.room backward .whole (start.state 0)).state 0
  body.state 0

/-- Both forms of the program stay within the limit. -/
def Node.fits (node : Node) : Bool :=
  !(node.programRoom false).isOver && !(node.programRoom true).isOver

end Remap.Regex
