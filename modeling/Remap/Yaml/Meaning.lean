import Remap.Number.Text
import Remap.Yaml.Scalar

/-!
# What a plain scalar means

A plain scalar can be a word for null or for a truth value, a number, or a text. Whole numbers are
decimal, hexadecimal, octal or binary. Digits after a needless zero are a text.
-/

namespace Remap.Yaml

/-- What a plain scalar means. -/
inductive Meaning
  | null
  | boolean (b : Bool)
  /-- A whole number of at most 128 bits, with a minus sign or without. -/
  | integer (minus : Bool) (n : Nat)
  | decimal (x : Float)
  | text

/-- The words for null. -/
def isNullWord (s : String) : Bool := ["null", "Null", "NULL", "~"].contains s

/-- The truth value that a word stands for. -/
def truthWord? (s : String) : Option Bool :=
  if ["true", "True", "TRUE"].contains s then some true
  else if ["false", "False", "FALSE"].contains s then some false
  else none

/-- Digits after a needless zero, with a sign or without. -/
def isPadded (cs : List Char) : Bool :=
  let digits := match cs with
    | '-' :: rest | '+' :: rest => rest
    | cs => cs
  match digits with
  | '0' :: rest => !rest.isEmpty && rest.all Char.isDigit
  | _ => false

/-- The number that digits in a base of at most sixteen stand for. -/
def numberInBase? (base : Nat) (cs : List Char) : Option Nat :=
  if cs.isEmpty then none
  else cs.foldlM (fun n c => do
    let d ← hexValue? c
    if d < base then some (base * n + d) else none) 0

/-- The magnitude of a whole number without its sign. -/
def magnitude? (cs : List Char) : Option Nat :=
  let decimal := if isPadded cs then none else numberInBase? 10 cs
  match cs with
  | '0' :: 'x' :: rest => numberInBase? 16 rest
  | '0' :: 'o' :: rest => numberInBase? 8 rest
  | '0' :: 'b' :: rest => numberInBase? 2 rest
  | _ => decimal

/-- The whole number that is written: whether it has a minus sign, and its magnitude. -/
def wholeNumber? (cs : List Char) : Option (Bool × Nat) :=
  match cs with
  | '-' :: rest => do
    let n ← magnitude? rest
    if n ≤ Nat.pow 2 127 then some (true, n) else none
  | _ => do
    let n ← magnitude? (if cs.head? == some '+' then cs.tail else cs)
    if n < Nat.pow 2 128 then some (false, n) else none

/-- The decimal that is written; it is finite or a word that starts with a point. -/
def decimalNumber? (cs : List Char) : Option Float :=
  let unsigned := if cs.head? == some '+' then cs.tail else cs
  if cs.head? == some '+' && (unsigned.head? == some '+' || unsigned.head? == some '-') then none
  else if [".inf", ".Inf", ".INF"].contains (String.ofList unsigned) then
    some (Number.infinity false)
  else if ["-.inf", "-.Inf", "-.INF"].contains (String.ofList cs) then
    some (Number.infinity true)
  else if [".nan", ".NaN", ".NAN"].contains (String.ofList cs) then
    some Number.notANumber
  else
    match Number.read unsigned with
    | some x => if x.isFinite then some x else none
    | none => none

/-- What a plain scalar means. -/
def meaning (s : String) : Meaning :=
  let cs := s.toList
  if s.isEmpty || isNullWord s then .null
  else
    match truthWord? s with
    | some b => .boolean b
    | none =>
      match wholeNumber? cs with
      | some (minus, n) => .integer minus n
      | none =>
        if isPadded cs then .text
        else
          match decimalNumber? cs with
          | some x => .decimal x
          | none => .text

/-- A plain scalar with this text would be the text itself. -/
def isPlainText (s : String) : Bool :=
  match meaning s with
  | .text => !isPadded s.toList
  | _ => false

end Remap.Yaml
