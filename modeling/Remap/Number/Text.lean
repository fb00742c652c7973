import Remap.Number.Shortest

/-!
# Written decimals

Decimals in plain positional notation, in the notation of data documents, and with a fixed number
of places; and reading a decimal back.
-/

namespace Remap.Number

/-- A run of zeros. -/
def zeros (n : Nat) : List Char :=
  List.replicate n '0'

/-- A decimal without an exponent and without a point when it is whole. -/
def Decimal.positional (d : Decimal) : List Char :=
  let ds := digits d.coefficient
  if 0 ≤ d.exponent then
    if d.coefficient == 0 then ['0'] else ds ++ zeros d.exponent.toNat
  else
    let places := (-d.exponent).toNat
    if places < ds.length then
      ds.take (ds.length - places) ++ '.' :: ds.drop (ds.length - places)
    else '0' :: '.' :: zeros (places - ds.length) ++ ds

/-- The text of a decimal value: the shortest digits that read back, positional whatever the
size; an exact tie goes up. -/
def text (x : Float) : String :=
  match Binary.ofFloat x with
  | .notANumber => "NaN"
  | .infinite negative => if negative then "-inf" else "inf"
  | .finite negative m q =>
    let body := (Decimal.shortest .up m q).positional
    String.ofList (if negative then '-' :: body else body)

/-- A decimal in a data document: positional with at least one place from `10 ^ -5` up to
`10 ^ 16`, with a signed exponent outside. -/
def Decimal.scientific (d : Decimal) : List Char :=
  let ds := digits d.coefficient
  let point := (ds.length : Int) + d.exponent
  if d.coefficient == 0 then ['0', '.', '0']
  else if -5 < point ∧ point ≤ 16 then
    if 0 ≤ d.exponent then d.positional ++ ['.', '0'] else d.positional
  else
    let mantissa := match ds with
      | c :: rest => if rest.isEmpty then [c] else c :: '.' :: rest
      | [] => []
    let e := point - 1
    mantissa ++ 'e' :: (if e < 0 then '-' else '+') :: digits e.natAbs

/-- The text of a finite decimal in a data document; an exact tie goes to the even digit. -/
def documentText (x : Float) : Option String :=
  match Binary.ofFloat x with
  | .finite negative m q =>
    let body := (Decimal.shortest .even m q).scientific
    some (String.ofList (if negative then '-' :: body else body))
  | _ => none

/-- A number with a fixed count of places: the exact value is rounded, a half to the even
neighbour. -/
def fixedText (places : Nat) (x : Float) : String :=
  match Binary.ofFloat x with
  | .notANumber => "NaN"
  | .infinite negative => if negative then "-inf" else "inf"
  | .finite negative m q =>
    let scaled :=
      if 0 ≤ q then m * Nat.pow 2 q.toNat * Nat.pow 10 places
      else roundDiv (m * Nat.pow 10 places) (Nat.pow 2 (-q).toNat)
    let ds := digits scaled
    let ds := zeros (places + 1 - ds.length) ++ ds
    let whole := ds.take (ds.length - places)
    let body := if places == 0 then whole else whole ++ '.' :: ds.drop (ds.length - places)
    String.ofList (if negative then '-' :: body else body)

/-- The exponent after `e`: an optional sign and at least one digit, and nothing else. -/
def readExponent (cs : List Char) : Option Int :=
  let (negative, ds) := match cs with
    | '-' :: ds => (true, ds)
    | '+' :: ds => (false, ds)
    | ds => (false, ds)
  if ds.isEmpty || !ds.all Char.isDigit then none
  else
    let n := ofDigits ds
    some (if negative then -n else n)

/-- An unsigned decimal: digits with an optional point, at least one digit among them, and an
optional exponent. -/
def readUnsigned (negative : Bool) (cs : List Char) : Option Float :=
  let whole := cs.takeWhile Char.isDigit
  let rest := cs.dropWhile Char.isDigit
  let (places, rest) := match rest with
    | '.' :: rest => (rest.takeWhile Char.isDigit, rest.dropWhile Char.isDigit)
    | rest => ([], rest)
  if whole.isEmpty && places.isEmpty then none
  else
    let coefficient := ofDigits (whole ++ places)
    let shift : Int := places.length
    match rest with
    | [] => some (ofDecimal negative coefficient (-shift))
    | e :: rest =>
      if e == 'e' || e == 'E' then
        (readExponent rest).map fun n => ofDecimal negative coefficient (n - shift)
      else none

/-- A decimal as people write it: an optional sign, then digits, or a word for infinity or for
not a number, in any case. -/
def read (cs : List Char) : Option Float :=
  let (negative, body) := match cs with
    | '-' :: body => (true, body)
    | '+' :: body => (false, body)
    | body => (false, body)
  let word := String.ofList (body.map Char.toLower)
  if word == "inf" || word == "infinity" then
    some (infinity negative)
  else if word == "nan" then
    some notANumber
  else readUnsigned negative body

end Remap.Number
