import Remap.Json.Basic

/-!
# Reading data documents

The grammar of JSON with these decisions: a negative zero and whole numbers outside sixty-four
bits are floating numbers, a number beyond the range of doubles is refused, escaped surrogates
have to come in pairs, and at most 127 arrays and objects may be open at once.

A floating number is computed in floating arithmetic: the leading digits that fit in sixty-four
bits without sign, multiplied or divided by a power of ten.
-/

namespace Remap.Json

/-- Blanks between the parts of a document. -/
def isSpace (c : Char) : Bool :=
  c == ' ' || c == '\n' || c == '\t' || c == '\r'

/-- The text from its first part on. -/
def skipSpace (cs : List Char) : List Char := cs.dropWhile isSpace

/-- The value of a hexadecimal digit. -/
def hexValue? (c : Char) : Option Nat :=
  if c.isDigit then some (c.toNat - 48)
  else if 'a' ≤ c && c ≤ 'f' then some (c.toNat - 87)
  else if 'A' ≤ c && c ≤ 'F' then some (c.toNat - 55)
  else none

/-- Four hexadecimal digits. -/
def readHex4 : List Char → Option (Nat × List Char)
  | a :: b :: c :: d :: rest => do
    let a ← hexValue? a
    let b ← hexValue? b
    let c ← hexValue? c
    let d ← hexValue? d
    return (((a * 16 + b) * 16 + c) * 16 + d, rest)
  | _ => none

/-- The character after a backslash and a `u`; a leading surrogate needs its partner. -/
def readEscapedPoint (cs : List Char) : Option (Char × List Char) := do
  let (n, rest) ← readHex4 cs
  if 0xDC00 ≤ n && n ≤ 0xDFFF then none
  else if 0xD800 ≤ n && n ≤ 0xDBFF then
    match rest with
    | '\\' :: 'u' :: rest =>
      let (m, rest) ← readHex4 rest
      if 0xDC00 ≤ m && m ≤ 0xDFFF then
        return (Char.ofNat (0x10000 + (n - 0xD800) * 0x400 + (m - 0xDC00)), rest)
      else none
    | _ => none
  else return (Char.ofNat n, rest)

/-- The character that a one-letter escape stands for. -/
def simpleEscape? : Char → Option Char
  | '"' => some '"'
  | '\\' => some '\\'
  | '/' => some '/'
  | 'b' => some '\x08'
  | 'f' => some '\x0c'
  | 'n' => some '\n'
  | 'r' => some '\r'
  | 't' => some '\t'
  | _ => none

/-- The characters of a string up to its closing quote, collected last first. -/
def readStringTail : (fuel : Nat) → List Char → List Char → Option (String × List Char)
  | 0, _, _ => none
  | fuel + 1, got, cs =>
    match cs with
    | '"' :: rest => some (String.ofList got.reverse, rest)
    | '\\' :: 'u' :: rest =>
      match readEscapedPoint rest with
      | some (c, rest) => readStringTail fuel (c :: got) rest
      | none => none
    | '\\' :: c :: rest =>
      match simpleEscape? c with
      | some c => readStringTail fuel (c :: got) rest
      | none => none
    | c :: rest => if c.toNat < 32 then none else readStringTail fuel (c :: got) rest
    | [] => none

/-- The largest whole number that is kept exactly while a number is read. -/
def significandLimit : Nat := Nat.pow 2 64 - 1

/-- Digits taken into a significand as long as it stays within the limit; the count of digits
taken, and whether one was left. -/
def takeDigits (significand taken : Nat) : List Char → Nat × Nat × List Char
  | [] => (significand, taken, [])
  | c :: rest =>
    if c.isDigit && 10 * significand + Number.digitValue c ≤ significandLimit then
      takeDigits (10 * significand + Number.digitValue c) (taken + 1) rest
    else (significand, taken, c :: rest)

/-- `10 ^ k` as the nearest double. -/
def powerOfTen (k : Nat) : Float := Number.nearest false (Nat.pow 10 k) 1

/-- A significand scaled by a power of ten in floating arithmetic; `none` beyond the range. -/
def scale (x : Float) (exponent : Int) : Option Float :=
  if x == 0 then some x
  else if 308 < exponent then none
  else if 0 ≤ exponent then
    let y := x * powerOfTen exponent.toNat
    if y.isInf then none else some y
  else if -308 ≤ exponent then some (x / powerOfTen (-exponent).toNat)
  else
    let y := x / powerOfTen 308
    if y == 0 then some y
    else if -616 ≤ exponent then some (y / powerOfTen (-exponent - 308).toNat)
    else some 0

/-- A floating number from its parts. -/
def floating (negative : Bool) (significand : Nat) (exponent : Int) : Option Json :=
  (scale (Number.ofInt significand) exponent).map fun x => .float (if negative then -x else x)

/-- The exponent part that follows a significand, after its letter. An exponent that leaves
thirty-one bits decides the number alone. -/
def readExponent (negative : Bool) (significand : Nat) (exponent : Int) (cs : List Char) :
    Option (Json × List Char) := do
  let (below, cs) := match cs with
    | '+' :: rest => (false, rest)
    | '-' :: rest => (true, rest)
    | cs => (false, cs)
  let ds := cs.takeWhile Char.isDigit
  let rest := cs.dropWhile Char.isDigit
  if ds.isEmpty then none
  else
    let e := Number.ofDigits ds
    if Nat.pow 2 31 - 1 < e then
      if significand != 0 && !below then none
      else return (.float (if negative then -0.0 else 0.0), rest)
    else
      let x ← floating negative significand (if below then exponent - e else exponent + e)
      return (x, rest)

/-- What follows the digits of a floating number: an exponent or nothing. -/
def readScale (negative : Bool) (significand : Nat) (exponent : Int) (cs : List Char) :
    Option (Json × List Char) :=
  match cs with
  | 'e' :: rest | 'E' :: rest => readExponent negative significand exponent rest
  | cs => (floating negative significand exponent).map (·, cs)

/-- The places after the point; at least one has to be there. -/
def readPlaces (negative : Bool) (significand : Nat) (exponent : Int) (cs : List Char) :
    Option (Json × List Char) :=
  let (significand, taken, rest) := takeDigits significand 0 cs
  match cs with
  | c :: _ =>
    if c.isDigit then
      readScale negative significand (exponent - taken) (rest.dropWhile Char.isDigit)
    else none
  | [] => none

/-- A number after its sign. -/
def readNumber (negative : Bool) (cs : List Char) : Option (Json × List Char) :=
  match cs with
  | [] => none
  | c :: rest =>
    if !c.isDigit then none
    else if c == '0' && (rest.head?.map Char.isDigit).getD false then none
    else
      let (significand, _, rest) := takeDigits 0 0 cs
      let more := rest.takeWhile Char.isDigit
      let rest := rest.dropWhile Char.isDigit
      let exponent : Int := more.length
      match rest with
      | '.' :: rest => readPlaces negative significand exponent rest
      | 'e' :: rest | 'E' :: rest => readExponent negative significand exponent rest
      | rest =>
        if !more.isEmpty then (floating negative significand exponent).map (·, rest)
        else if !negative then some (.integer significand, rest)
        else if significand == 0 || Nat.pow 2 63 < significand then
          some (.float (-(Number.ofInt significand)), rest)
        else some (.integer (-significand), rest)

/-- A fixed word and the value it stands for. -/
def readWord (word : String) (value : Json) (cs : List Char) : Option (Json × List Char) :=
  let w := word.toList
  if w.isPrefixOf cs then some (value, cs.drop w.length) else none

mutual
/-- One value; `depth` arrays and objects may still be opened. -/
def readValue : (fuel depth : Nat) → List Char → Option (Json × List Char)
  | 0, _, _ => none
  | fuel + 1, depth, cs =>
    match skipSpace cs with
    | '"' :: rest => (readStringTail rest.length.succ [] rest).map fun (s, r) => (.string s, r)
    | '[' :: rest =>
      match depth with
      | 0 => none
      | depth + 1 =>
        match skipSpace rest with
        | ']' :: rest => some (.array [], rest)
        | rest => (readItems fuel depth [] rest).map fun (items, r) => (.array items, r)
    | '\x7b' :: rest =>
      match depth with
      | 0 => none
      | depth + 1 =>
        match skipSpace rest with
        | '\x7d' :: rest => some (.object [], rest)
        | rest => (readMembers fuel depth [] rest).map fun (ms, r) => (.object ms, r)
    | '-' :: rest => readNumber true rest
    | 'n' :: rest => readWord "null" .null ('n' :: rest)
    | 't' :: rest => readWord "true" (.boolean true) ('t' :: rest)
    | 'f' :: rest => readWord "false" (.boolean false) ('f' :: rest)
    | cs => readNumber false cs

/-- The items of an array up to its end, collected last first. -/
def readItems : (fuel depth : Nat) → List Json → List Char → Option (List Json × List Char)
  | 0, _, _, _ => none
  | fuel + 1, depth, got, cs =>
    match readValue fuel depth cs with
    | none => none
    | some (item, rest) =>
      match skipSpace rest with
      | ',' :: rest => readItems fuel depth (item :: got) rest
      | ']' :: rest => some ((item :: got).reverse, rest)
      | _ => none

/-- The members of an object up to its end. -/
def readMembers : (fuel depth : Nat) → List (String × Json) → List Char →
    Option (List (String × Json) × List Char)
  | 0, _, _, _ => none
  | fuel + 1, depth, got, cs =>
    match skipSpace cs with
    | '"' :: rest =>
      match readStringTail rest.length.succ [] rest with
      | none => none
      | some (name, rest) =>
        match skipSpace rest with
        | ':' :: rest =>
          match readValue fuel depth rest with
          | none => none
          | some (v, rest) =>
            match skipSpace rest with
            | ',' :: rest => readMembers fuel depth (putMember got name v) rest
            | '\x7d' :: rest => some (putMember got name v, rest)
            | _ => none
        | _ => none
    | _ => none
end

/-- A whole document: one value and nothing but blanks around it. -/
def read (text : String) : Option Json :=
  let cs := text.toList
  match readValue (2 * cs.length + 2) 127 cs with
  | some (v, rest) => if (skipSpace rest).isEmpty then some v else none
  | none => none

end Remap.Json
