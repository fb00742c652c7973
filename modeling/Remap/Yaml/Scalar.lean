import Remap.Yaml.Place

/-!
# Scalars in a text

Plain, quoted and block scalars. A line break inside a plain or quoted scalar is folded: one
break is a space, of several breaks the first is dropped. Blanks around a break do not count.

Each reader takes a count that bounds its steps; the length of the text is always enough, because
each step goes forward.
-/

namespace Remap.Yaml

/-- How a scalar is written. -/
inductive Style
  | plain | quoted | literal | folded
  deriving DecidableEq, Repr, Inhabited

/-- What a run of line breaks inside a scalar stands for. -/
def foldBreaks (first others : List Char) : List Char :=
  if first == ['\n'] then (if others.isEmpty then [' '] else others) else first ++ others

/-- A run of blanks and line breaks inside a scalar. -/
structure Gap where
  /-- Blanks before the first break. -/
  blanks : List Char := []
  /-- The first break. -/
  first : List Char := []
  /-- The other breaks. -/
  others : List Char := []
  /-- There was a break. -/
  broken : Bool := false

/-- What a gap stands for. -/
def Gap.text (g : Gap) : List Char :=
  if g.broken then foldBreaks g.first g.others else g.blanks

/-- The gap at a place. A tab may not stand in the indentation, which ends at a column. -/
def readGap (indent : Int) : (fuel : Nat) → Gap → Place → Option (Gap × Place)
  | 0, _, _ => none
  | fuel + 1, g, p =>
    match p.peek with
    | none => some (g, p)
    | some c =>
      if isBlank c then
        if g.broken && (p.column : Int) < indent && c == '\t' then none
        else readGap indent fuel (if g.broken then g else { g with blanks := g.blanks ++ [c] })
          (p.skip 1)
      else if isBreak c then
        let (br, p) := p.takeBreak
        if g.broken then readGap indent fuel { g with others := g.others ++ br } p
        else readGap indent fuel { g with first := br, broken := true } p
      else some (g, p)

/-! ## Plain scalars -/

/-- A flow indicator that ends a plain scalar. -/
def isFlowEnd (c : Char) : Bool :=
  c == ',' || c == '[' || c == ']' || c == '\x7b' || c == '\x7d'

/-- The characters of a plain scalar up to the next gap; inside brackets a colon may not touch an
indicator. -/
def plainWord (flow : Bool) : List Char → Option (List Char)
  | [] => some []
  | c :: rest =>
    if isBlank c || isBreak c then some []
    else if c == ':' && isGap rest.head? then some []
    else if flow && c == ':' && rest.head?.any (fun d => isFlowEnd d || d == '?') then none
    else if flow && isFlowEnd c then some []
    else (plainWord flow rest).map (c :: ·)

/-- A plain scalar: its text, whether the gap behind it has a break, and the place behind that
gap. Outside of brackets it goes on in lines that are indented. -/
def readPlain (flow : Bool) (indent : Int) : (fuel : Nat) → (text : List Char) → Gap → Place →
    Option (List Char × Bool × Place)
  | 0, _, _, _ => none
  | fuel + 1, text, g, p =>
    if p.seesDocumentMark || p.sees '#' then some (text, g.broken, p)
    else do
      let word ← plainWord flow p.rest
      if word.isEmpty then some (text, g.broken, p)
      else
        let text := text ++ g.text ++ word
        let p := p.skip word.length
        if p.peek.isNone || !isGap p.peek then some (text, false, p)
        else
          let (g, p) ← readGap indent (p.rest.length + 1) {} p
          if !flow && (p.column : Int) < indent then some (text, g.broken, p)
          else readPlain flow indent fuel text g p

/-! ## Quoted scalars -/

/-- The value of a hexadecimal digit. -/
def hexValue? (c : Char) : Option Nat :=
  if c.isDigit then some (c.toNat - 48)
  else if 'a' ≤ c && c ≤ 'f' then some (c.toNat - 87)
  else if 'A' ≤ c && c ≤ 'F' then some (c.toNat - 55)
  else none

/-- The number that hexadecimal digits stand for. -/
def hexNumber? : (n : Nat) → List Char → Option Nat
  | n, [] => some n
  | n, c :: rest => do
    let d ← hexValue? c
    hexNumber? (16 * n + d) rest

/-- The character with a code of some digits. -/
def codedChar? (digits : Nat) (rest : List Char) : Option (Char × Nat) := do
  let taken := rest.take digits
  if taken.length < digits then none
  let n ← hexNumber? 0 taken
  if (0xD800 ≤ n && n ≤ 0xDFFF) || 0x10FFFF < n then none
  return (Char.ofNat n, digits + 1)

/-- The character that an escape stands for, and how many characters follow the backslash. -/
def escape? : List Char → Option (Char × Nat)
  | '0' :: _ => some ('\x00', 1)
  | 'a' :: _ => some ('\x07', 1)
  | 'b' :: _ => some ('\x08', 1)
  | 't' :: _ => some ('\t', 1)
  | '\t' :: _ => some ('\t', 1)
  | 'n' :: _ => some ('\n', 1)
  | 'v' :: _ => some ('\x0b', 1)
  | 'f' :: _ => some ('\x0c', 1)
  | 'r' :: _ => some ('\r', 1)
  | 'e' :: _ => some ('\x1b', 1)
  | ' ' :: _ => some (' ', 1)
  | '"' :: _ => some ('"', 1)
  | '/' :: _ => some ('/', 1)
  | '\\' :: _ => some ('\\', 1)
  | 'N' :: _ => some ('\u0085', 1)
  | '_' :: _ => some ('\u00a0', 1)
  | 'L' :: _ => some ('\u2028', 1)
  | 'P' :: _ => some ('\u2029', 1)
  | 'x' :: rest => codedChar? 2 rest
  | 'u' :: rest => codedChar? 4 rest
  | 'U' :: rest => codedChar? 8 rest
  | _ => none

/-- The characters of a quoted scalar up to the closing quote, a gap or an escaped line break,
collected last first; says whether it was such a break. -/
def quotedWord (single : Bool) : (fuel : Nat) → (got : List Char) → Place →
    Option (List Char × Bool × Place)
  | 0, _, _ => none
  | fuel + 1, got, p =>
    match p.rest with
    | [] => some (got.reverse, false, p)
    | c :: rest =>
      if isGap (some c) then some (got.reverse, false, p)
      else if single && c == '\'' then
        if rest.head? == some '\'' then quotedWord single fuel ('\'' :: got) (p.skip 2)
        else some (got.reverse, false, p)
      else if !single && c == '"' then some (got.reverse, false, p)
      else if !single && c == '\\' then
        if rest.head?.any isBreak then some (got.reverse, true, ((p.skip 1).takeBreak).2)
        else do
          let (d, size) ← escape? rest
          quotedWord single fuel (d :: got) (p.skip (size + 1))
      else quotedWord single fuel (c :: got) (p.skip 1)

/-- A quoted scalar after its opening quote: its text, and the place behind the closing quote. -/
def readQuoted (single : Bool) : (fuel : Nat) → (text : List Char) → Place →
    Option (List Char × Place)
  | 0, _, _ => none
  | fuel + 1, text, p =>
    if p.seesDocumentMark || p.peek.isNone then none
    else do
      let (word, escapedBreak, p) ← quotedWord single (p.rest.length + 1) [] p
      let text := text ++ word
      if !escapedBreak && p.sees (if single then '\'' else '"') then some (text, p.skip 1)
      else
        let (g, p) ← readGap 0 (p.rest.length + 1) { broken := escapedBreak } p
        readQuoted single fuel (text ++ g.text) p

/-! ## Block scalars -/

/-- What happens to the line breaks at the end of a block scalar. -/
inductive Chomping
  | strip | clip | keep
  deriving DecidableEq, Repr

/-- The chomping that a sign stands for. -/
def chomping? : Option Char → Option Chomping
  | some '+' => some .keep
  | some '-' => some .strip
  | _ => none

/-- The digit of an indentation. -/
def indentDigit? : Option Char → Option Nat
  | some c => if c.isDigit then some (c.toNat - 48) else none
  | none => none

/-- The chomping and the indentation of a block scalar, in either order. -/
def readHeader (p : Place) : Option (Chomping × Option Nat × Place) :=
  match chomping? p.peek with
  | some chomping =>
    let p := p.skip 1
    match indentDigit? p.peek with
    | some 0 => none
    | some n => some (chomping, some n, p.skip 1)
    | none => some (chomping, none, p)
  | none =>
    match indentDigit? p.peek with
    | some 0 => none
    | some n =>
      let p := p.skip 1
      match chomping? p.peek with
      | some chomping => some (chomping, some n, p.skip 1)
      | none => some (.clip, some n, p)
    | none => some (.clip, none, p)

/-- Past the indentation and the empty lines before the next line of a block scalar: the breaks,
the widest indentation, and the place. An indentation of zero is still to be found out. -/
def blockBreaks (indent : Nat) : (fuel : Nat) → (breaks : List Char) → (widest : Nat) → Place →
    Option (List Char × Nat × Place)
  | 0, _, _, _ => none
  | fuel + 1, breaks, widest, p =>
    let leading := (p.rest.takeWhile (· == ' ')).length
    let p := p.skip (if indent == 0 then leading else min leading (indent - p.column))
    let widest := max widest p.column
    if (indent == 0 || p.column < indent) && p.sees '\t' then none
    else if p.peek.any isBreak then
      let (br, p) := p.takeBreak
      blockBreaks indent fuel (breaks ++ br) widest p
    else some (breaks, widest, p)

/-- What the text of a block scalar was followed by: the break of the last line, the empty lines
after it, and whether the last line started with a blank. -/
structure Tail where
  first : List Char := []
  others : List Char := []
  blank : Bool := false

/-- What joins a line to the lines before it. -/
def Tail.joint (folded : Bool) (t : Tail) (blank : Bool) : List Char :=
  if folded && t.first == ['\n'] && !t.blank && !blank then
    (if t.others.isEmpty then [' '] else []) ++ t.others
  else t.first ++ t.others

/-- The lines of a block scalar of a given indentation. -/
def blockLines (folded : Bool) (indent : Nat) : (fuel : Nat) → (text : List Char) → Tail → Place →
    Option (List Char × Tail × Place)
  | 0, _, _, _ => none
  | fuel + 1, text, t, p =>
    if p.column != indent || p.peek.isNone then some (text, t, p)
    else do
      let blank := p.peek.any isBlank
      let (line, p) := p.takeWhile (fun c => !isBreak c)
      let text := text ++ t.joint folded blank ++ line
      let (br, p) := p.takeBreak
      let (breaks, _, p) ← blockBreaks indent (p.rest.length + 1) [] 0 p
      blockLines folded indent fuel text ⟨br, breaks, blank⟩ p

/-- A block scalar after its indicator, inside a given indentation. -/
def readBlock (folded : Bool) (outer : Int) (p : Place) : Option (List Char × Place) := do
  let (chomping, increment, p) ← readHeader p
  let p := p.dropWhile isBlank
  let p := if p.sees '#' then p.dropWhile (fun c => !isBreak c) else p
  if !isLineEnd p.peek then none
  let p := (p.takeBreak).2
  let fixed := match increment with
    | some n => if 0 ≤ outer then outer.toNat + n else n
    | none => 0
  let (breaks, widest, p) ← blockBreaks fixed (p.rest.length + 1) [] 0 p
  let indent := if fixed == 0 then max 1 (max widest (outer + 1).toNat) else fixed
  let (text, t, p) ← blockLines folded indent (p.rest.length + 1) [] ⟨[], breaks, false⟩ p
  let ending := match chomping with
    | .strip => []
    | .clip => t.first
    | .keep => t.first ++ t.others
  return (text ++ ending, p)

end Remap.Yaml
