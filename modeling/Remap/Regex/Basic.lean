import Remap.Regex.CharSet

/-!
# Patterns and matching

A pattern as a tree, and the set of positions where a match can end when it starts at one of a
set of positions. A repetition is run only as often as positions can change. Groups and the order
of preference leave no trace there, because only whether there is a match is asked for, never where
its parts are.
-/

namespace Remap.Regex

/-- A condition on the place between two characters. -/
inductive Look
  | textStart | textEnd | lineStart | lineEnd
  /-- Start of a line, lines ending with a line feed, a carriage return or both. -/
  | anyLineStart
  /-- End of a line, lines ending with a line feed, a carriage return or both. -/
  | anyLineEnd
  | wordBoundary (ascii : Bool) | notWordBoundary (ascii : Bool)
  | wordStart (ascii : Bool) | wordEnd (ascii : Bool)
  | wordStartHalf (ascii : Bool) | wordEndHalf (ascii : Bool)
  deriving DecidableEq, Repr

/-- A pattern. A sequence of several parts, and an alternation of several branches, leans to the
right: the first part or branch stands alone. -/
inductive Node
  /-- The empty text. -/
  | empty
  /-- Some characters in a row. -/
  | literal (cs : List Char)
  /-- One character of a set; `ascii` says that it was read as a set of ASCII. -/
  | set (ascii : Bool) (s : CharSet)
  /-- A place that meets a condition. -/
  | look (l : Look)
  | seq (a b : Node)
  | alt (a b : Node)
  /-- At least `least` and, if given, at most `most` times; whether more is better than less decides
  which match is found first, never whether there is one. -/
  | repeated (a : Node) (least : Nat) (most : Option Nat) (greedy : Bool)
  /-- A group, numbered by its opening. -/
  | group (index : Nat) (a : Node)
  deriving DecidableEq, Repr, Inhabited

/-- The character at a position belongs to a word. -/
def isWordAt (ascii : Bool) (text : Array Char) (i : Nat) : Bool :=
  match text[i]? with
  | some c => (if ascii then CharSet.asciiWord else CharSet.word).contains c.toNat
  | none => false

/-- The character before a position belongs to a word. -/
def isWordBefore (ascii : Bool) (text : Array Char) (i : Nat) : Bool :=
  i != 0 && isWordAt ascii text (i - 1)

/-- The character at a position, given by its code point. -/
def isAt (text : Array Char) (i n : Nat) : Bool :=
  match text[i]? with
  | some c => c.toNat == n
  | none => false

/-- The character before a position, given by its code point. -/
def isBefore (text : Array Char) (i n : Nat) : Bool :=
  i != 0 && isAt text (i - 1) n

/-- The condition holds at a position. -/
def Look.holds (text : Array Char) (i : Nat) : Look → Bool
  | .textStart => i == 0
  | .textEnd => i == text.size
  | .lineStart => i == 0 || isBefore text i 10
  | .lineEnd => i == text.size || isAt text i 10
  | .anyLineStart => i == 0 || isBefore text i 10 || (isBefore text i 13 && !isAt text i 10)
  | .anyLineEnd => i == text.size || isAt text i 13 || (isAt text i 10 && !isBefore text i 13)
  | .wordBoundary ascii => isWordBefore ascii text i != isWordAt ascii text i
  | .notWordBoundary ascii => isWordBefore ascii text i == isWordAt ascii text i
  | .wordStart ascii => !isWordBefore ascii text i && isWordAt ascii text i
  | .wordEnd ascii => isWordBefore ascii text i && !isWordAt ascii text i
  | .wordStartHalf ascii => !isWordBefore ascii text i
  | .wordEndHalf ascii => !isWordAt ascii text i

/-- The members of two ascending lists of positions, in ascending order. -/
def merge : List Nat → List Nat → List Nat
  | [], bs => bs
  | as, [] => as
  | a :: as, b :: bs =>
    if a < b then a :: merge as (b :: bs)
    else if b < a then b :: merge (a :: as) bs
    else a :: merge as bs

/-- The members of an ascending list that are not in another one. -/
def without : List Nat → List Nat → List Nat
  | [], _ => []
  | as, [] => as
  | a :: as, b :: bs =>
    if a < b then a :: without as (b :: bs)
    else if b < a then without (a :: as) bs
    else without as bs

/-- A step on positions repeated an exact number of times. -/
def times (step : List Nat → List Nat) : Nat → List Nat → List Nat
  | 0, at_ => at_
  | n + 1, at_ => if at_.isEmpty then [] else times step n (step at_)

/-- All positions reached by at most so many steps; `fresh` holds those reached last. -/
def closure (step : List Nat → List Nat) : Nat → (fresh seen : List Nat) → List Nat
  | 0, _, seen => seen
  | n + 1, fresh, seen =>
    if fresh.isEmpty then seen
    else
      let next := without (step fresh) seen
      closure step n next (merge next seen)

/-- The position after some characters that start at a position. -/
def afterLiteral? (text : Array Char) : List Char → Nat → Option Nat
  | [], i => some i
  | c :: cs, i => if text[i]? == some c then afterLiteral? text cs (i + 1) else none

/-- The position after a character of a set. -/
def afterMember? (text : Array Char) (s : CharSet) (i : Nat) : Option Nat :=
  match text[i]? with
  | some c => if s.contains c.toNat then some (i + 1) else none
  | none => none

/-- Where a match can end that starts at one of the positions, all lists ascending. -/
def Node.ends (text : Array Char) : Node → List Nat → List Nat
  | .empty, at_ => at_
  | .literal cs, at_ => at_.filterMap (afterLiteral? text cs)
  | .set _ s, at_ => at_.filterMap (afterMember? text s)
  | .look l, at_ => at_.filter fun i => l.holds text i
  | .seq a b, at_ => b.ends text (a.ends text at_)
  | .alt a b, at_ => merge (a.ends text at_) (b.ends text at_)
  | .repeated a least most _, at_ =>
    let bound := text.size + 1
    let start := times (a.ends text) (min least bound) at_
    let more := match most with
      | some most => min (most - least) bound
      | none => bound
    closure (a.ends text) more start start
  | .group _ a, at_ => a.ends text at_

/-- Some part of the text matches. -/
def Node.isMatch (node : Node) (text : String) : Bool :=
  let cs := text.toList.toArray
  !(node.ends cs (List.range (cs.size + 1))).isEmpty

end Remap.Regex
