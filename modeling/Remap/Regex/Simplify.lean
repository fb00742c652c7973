import Remap.Regex.Basic

/-!
# Simplified patterns

Patterns put together from parts, with what can be said more simply said so at once. A sequence
holds no sequence, no empty part and no two literals beside each other; an alternation holds no
alternation, and branches that all start alike have their start in front; what is repeated once
stands for itself. The text of a pattern is read by these constructors alone, so that the room its
program takes depends on what it says.
-/

namespace Remap.Regex

namespace Node

/-- A pattern that nothing matches. -/
def fail : Node := .set true []

/-- A set as a pattern: one character is a literal. -/
def ofSet (ascii : Bool) (s : CharSet) : Node :=
  match s with
  | [] => fail
  | [(lo, hi)] => if lo == hi then .literal [Char.ofNat lo] else .set ascii s
  | s => .set ascii s

/-- The least length of a match, unless the pattern can be one that nothing matches. -/
def minLength? : Node → Option Nat
  | .empty | .look _ => some 0
  | .literal cs => some cs.length
  | .set _ s => if s.isEmpty then none else some 1
  | .seq a b => do return (← a.minLength?) + (← b.minLength?)
  | .alt a b => do return min (← a.minLength?) (← b.minLength?)
  | .repeated a least _ _ => a.minLength?.map (· * least)
  | .group _ a => a.minLength?

/-- The greatest length of a match, if there is one and the pattern cannot be one that nothing
matches. -/
def maxLength? : Node → Option Nat
  | .empty | .look _ => some 0
  | .literal cs => some cs.length
  | .set _ s => if s.isEmpty then none else some 1
  | .seq a b => do return (← a.maxLength?) + (← b.maxLength?)
  | .alt a b => do return max (← a.maxLength?) (← b.maxLength?)
  | .repeated a _ most _ => do return (← a.maxLength?) * (← most)
  | .group _ a => a.maxLength?

/-- The size of the tree. -/
def size : Node → Nat
  | .empty | .literal _ | .set _ _ | .look _ => 1
  | .seq a b | .alt a b => a.size + b.size + 1
  | .repeated a _ _ _ | .group _ a => a.size + 1

/-- A pattern repeated. Of what matches only the empty text one copy is enough. -/
def repetition (a : Node) (least : Nat) (most : Option Nat) (greedy : Bool) : Node :=
  let (least, most) :=
    if a.maxLength? == some 0 then (min least 1, some (min (most.getD 1) 1)) else (least, most)
  if most == some 0 then .empty
  else if least == 1 && most == some 1 then a
  else .repeated a least most greedy

/-- The parts of a sequence. -/
def parts : Node → List Node
  | .seq a b => a :: b.parts
  | .empty => []
  | n => [n]

/-- The branches of an alternation. -/
def branches : Node → List Node
  | .alt a b => a :: b.branches
  | n => [n]

/-- A part in front of others; two literals become one. -/
def consPart (part : Node) (rest : List Node) : List Node :=
  match part, rest with
  | .literal a, .literal b :: rest => .literal (a ++ b) :: rest
  | part, rest => part :: rest

/-- Parts in a row, as they are. -/
def row : List Node → Node
  | [] => .empty
  | [n] => n
  | n :: rest => .seq n (row rest)

/-- A sequence of parts. -/
def concat (ns : List Node) : Node := row ((ns.flatMap parts).foldr consPart [])

/-- The character of a literal of one character. -/
def character? : Node → Option Char
  | .literal [c] => some c
  | _ => none

/-- The members of a set. -/
def members? : Node → Option CharSet
  | .set _ s => some s
  | _ => none

/-- The branches as one set: if all are single characters, or all are sets. -/
def joinBranches? (ns : List Node) : Option Node :=
  match ns.mapM character? with
  | some cs => some (ofSet false (Text.Ranges.ofPoints (cs.map Char.toNat)))
  | none => (ns.mapM members?).map fun sets => ofSet false (Text.Ranges.unions sets)

/-- The parts of a sequence of two parts or more. -/
def sequence? : Node → Option (List Node)
  | .seq a b => some (a :: b.parts)
  | _ => none

/-- How many parts two sequences share at their starts. -/
def shared : List Node → List Node → Nat
  | a :: as, b :: bs => if a = b then shared as bs + 1 else 0
  | _, _ => 0

/-- How many parts all branches share at their starts; none unless all are sequences. -/
def sharedStart (ns : List Node) : Nat :=
  match ns.mapM sequence? with
  | some (first :: others) => others.foldl (fun n other => min n (shared first other)) first.length
  | _ => 0

/-- Branches side by side, as they are. -/
def choice : List Node → Node
  | [] => fail
  | [n] => n
  | n :: rest => .alt n (choice rest)

/-- An alternation of branches; `depth` bounds how often a common start is put in front. -/
def alternation : (depth : Nat) → List Node → Node
  | 0, ns => choice ns
  | depth + 1, ns =>
    match ns.flatMap branches with
    | [] => fail
    | [n] => n
    | ns =>
      match joinBranches? ns with
      | some n => n
      | none =>
        let n := sharedStart ns
        if n == 0 then choice ns
        else
          let start := (ns.head?.getD .empty).parts.take n
          let rests := ns.map fun branch => concat (branch.parts.drop n)
          concat (start ++ [alternation depth rests])

/-- A choice between branches. Every common start that is put in front leaves less behind it. -/
def oneOf (ns : List Node) : Node := alternation ((ns.map size).foldl (· + ·) 1) ns

end Node

end Remap.Regex
