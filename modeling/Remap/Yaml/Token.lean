import Remap.Yaml.Tag

/-!
# Tokens of a document

The tokens that a document is made of. Indentation shows as tokens for the start and end of block
collections. A key is recognised only at its colon: the token for it is then put before what has
been read since the place where the key could have started.

A text that is not well-formed gives the tokens before the fault and the token `fault` as the
last one; otherwise `streamEnd` is the last one. Tokens from a place on where a key could still have
started do not count as read.
-/

namespace Remap.Yaml

/-- A token. -/
inductive Token
  | streamEnd
  | fault
  | version (major minor : Nat)
  | tagHandle (handle : String) (start : Tag)
  | documentStart
  | documentEnd
  | blockSequenceStart
  | blockMappingStart
  | blockEnd
  | flowSequenceStart
  | flowSequenceEnd
  | flowMappingStart
  | flowMappingEnd
  | blockEntry
  | flowEntry
  | key
  | value
  | alias (name : String)
  | anchor (name : String)
  | tag (handle : String) (rest : Tag)
  | scalar (style : Style) (text : String)
  deriving DecidableEq, Repr, Inhabited

/-- Where a key without a mark of its own could have started. -/
structure KeyStart where
  possible : Bool := false
  /-- Only a key can stand there. -/
  required : Bool := false
  /-- How many tokens came before it. -/
  number : Nat := 0
  index : Nat := 0
  line : Nat := 0
  column : Nat := 0

/-- The state of reading tokens. -/
structure Scanner where
  place : Place
  /-- The tokens so far, the last one first. -/
  tokens : List Token := []
  /-- The column of the innermost block collection, `-1` outside of all. -/
  indent : Int := -1
  /-- The columns of the collections around it. -/
  indents : List Int := []
  /-- The number of open brackets. -/
  flowLevel : Nat := 0
  /-- The possible key of the innermost bracket. -/
  keyStart : KeyStart := {}
  /-- The possible keys of the brackets around it. -/
  outerKeys : List KeyStart := []
  /-- A key can start here. -/
  keyAllowed : Bool := true

namespace Scanner

/-- Inside brackets. -/
def inFlow (s : Scanner) : Bool := s.flowLevel != 0

/-- One more token. -/
def emit (s : Scanner) (t : Token) : Scanner := { s with tokens := t :: s.tokens }

/-- A token put before all tokens but the first ones. -/
def insertAt (s : Scanner) (number : Nat) (t : Token) : Scanner :=
  let later := s.tokens.length - number
  { s with tokens := s.tokens.take later ++ t :: s.tokens.drop later }

/-- At another place. -/
def moveTo (s : Scanner) (p : Place) : Scanner := { s with place := p }

/-- Past some characters of the line. -/
def skip (s : Scanner) (n : Nat) : Scanner := { s with place := s.place.skip n }

/-- A key can start next, or cannot. -/
def allowKey (s : Scanner) (allowed : Bool) : Scanner := { s with keyAllowed := allowed }

/-- Past blanks, comments and line breaks. A mark of the byte order at the start of a line takes a
column and is passed over as well. -/
def skipGaps : (fuel : Nat) → Scanner → Scanner
  | 0, s => s
  | fuel + 1, s =>
    let p := if s.place.column == 0 && s.place.sees '\uFEFF' then s.place.skip 1 else s.place
    let p := p.dropWhile fun c => c == ' ' || ((s.inFlow || !s.keyAllowed) && c == '\t')
    let p := if p.sees '#' then p.dropWhile (fun c => !isBreak c) else p
    if p.peek.any isBreak then
      let s := { s with place := (p.takeBreak).2, keyAllowed := s.keyAllowed || !s.inFlow }
      skipGaps fuel s
    else { s with place := p }

/-- A key is on one line and not longer than this. -/
def keyLimit : Nat := 1024

/-- The possible key, unless the place is too far away; a required one may not get lost. -/
def staleKey (p : Place) (k : KeyStart) : Option KeyStart :=
  if k.possible && (k.line < p.line || k.index + keyLimit < p.index) then
    if k.required then none else some { k with possible := false }
  else some k

/-- Possible keys that are too far away given up. -/
def dropStaleKeys (s : Scanner) : Option Scanner := do
  let keyStart ← staleKey s.place s.keyStart
  let outerKeys ← s.outerKeys.mapM (staleKey s.place)
  return { s with keyStart, outerKeys }

/-- The possible key of the innermost bracket given up. -/
def dropKey (s : Scanner) : Option Scanner :=
  if s.keyStart.possible && s.keyStart.required then none
  else some { s with keyStart := { s.keyStart with possible := false } }

/-- A key can start at the place. -/
def saveKey (s : Scanner) : Option Scanner :=
  if s.keyAllowed then do
    let s ← s.dropKey
    let p := s.place
    return { s with
      keyStart := ⟨true, !s.inFlow && s.indent == p.column, s.tokens.length, p.index, p.line,
        p.column⟩ }
  else some s

/-- A block collection starts at a column, unless one is open there. `start` is put before all
tokens but the first ones. -/
def openBlock (s : Scanner) (column number : Nat) (start : Token) : Scanner :=
  if !s.inFlow && s.indent < column then
    { s.insertAt number start with indent := column, indents := s.indent :: s.indents }
  else s

/-- The block collections right of a column end. -/
def closeBlocks (s : Scanner) (column : Int) : Scanner :=
  if s.inFlow then s else go s s.indents
where
  /-- One collection after the other. -/
  go (s : Scanner) : List Int → Scanner
    | [] => s
    | outer :: rest =>
      if column < s.indent then
        go { s.emit .blockEnd with indent := outer, indents := rest } rest
      else s

/-- An indicator of some characters that stands for a token. -/
def indicator (s : Scanner) (size : Nat) (t : Token) : Scanner := (s.skip size).emit t

/-! ## Directives and anchors -/

/-- A number of at most nine digits. -/
def versionNumber (p : Place) : Option (Nat × Place) :=
  let (digits, p) := p.takeWhile Char.isDigit
  if digits.isEmpty || 9 < digits.length then none
  else some (digits.foldl (fun n c => 10 * n + (c.toNat - 48)) 0, p)

/-- The name of an anchor or an alias. -/
def readName (p : Place) : Option (String × Place) :=
  let (name, p) := (p.skip 1).takeWhile isWord
  if name.isEmpty then none
  else if isGap p.peek || p.peek.any (fun c => "?:,]\x7d%@`".toList.contains c) then
    some (String.ofList name, p)
  else none

/-- The rest of a directive's line. -/
def endDirective (t : Token) (p : Place) : Option (Token × Place) :=
  let p := p.dropWhile isBlank
  let p := if p.sees '#' then p.dropWhile (fun c => !isBreak c) else p
  if isLineEnd p.peek then some (t, (p.takeBreak).2) else none

/-- A directive: the version, or a handle for tags. -/
def readDirective (p : Place) : Option (Token × Place) := do
  let (name, p) := (p.skip 1).takeWhile isWord
  if name.isEmpty || !isGap p.peek then none
  else if name == "YAML".toList then
    let (major, p) ← versionNumber (p.dropWhile isBlank)
    if !p.sees '.' then none
    else
      let (minor, p) ← versionNumber (p.skip 1)
      endDirective (.version major minor) p
  else if name == "TAG".toList then
    let (handle, p) ← readHandle true (p.dropWhile isBlank)
    if !p.peek.any isBlank then none
    else
      let (start, p) ← readTagBytes true (p.dropWhile isBlank)
      if start.isEmpty || !isGap p.peek then none
      else endDirective (.tagHandle (String.ofList handle) (Tag.ofBytes start)) p
  else none

/-! ## One token after the other -/

/-- Everything ends: blocks are closed, no key is possible. -/
def closeAll (s : Scanner) : Option Scanner := do
  let s ← (s.closeBlocks (-1)).dropKey
  return s.allowKey false

/-- A bracket opens. -/
def openFlow (s : Scanner) (t : Token) : Option Scanner := do
  let s ← s.saveKey
  let s := { s with
    flowLevel := s.flowLevel + 1, outerKeys := s.keyStart :: s.outerKeys, keyStart := {} }
  return (s.allowKey true).indicator 1 t

/-- A bracket closes. -/
def closeFlow (s : Scanner) (t : Token) : Option Scanner := do
  let s ← s.dropKey
  let s := match s.outerKeys with
    | outer :: rest =>
      { s with flowLevel := s.flowLevel - 1, keyStart := outer, outerKeys := rest }
    | [] => s
  return (s.allowKey false).indicator 1 t

/-- A comma. -/
def flowEntry (s : Scanner) : Option Scanner := do
  let s ← s.dropKey
  return (s.allowKey true).indicator 1 .flowEntry

/-- A hyphen before an item. -/
def blockEntry (s : Scanner) : Option Scanner := do
  if !s.inFlow && !s.keyAllowed then none
  let s := s.openBlock s.place.column s.tokens.length .blockSequenceStart
  let s ← s.dropKey
  return (s.allowKey true).indicator 1 .blockEntry

/-- A question mark before a key. -/
def explicitKey (s : Scanner) : Option Scanner := do
  if !s.inFlow && !s.keyAllowed then none
  let s := s.openBlock s.place.column s.tokens.length .blockMappingStart
  let s ← s.dropKey
  return (s.allowKey !s.inFlow).indicator 1 .key

/-- A colon before a value: what came before it is the key, if a key was possible. -/
def valueMark (s : Scanner) : Option Scanner :=
  let k := s.keyStart
  if k.possible then
    let s := (s.insertAt k.number .key).openBlock k.column k.number .blockMappingStart
    let s := { s with keyStart := { k with possible := false } }
    some ((s.allowKey false).indicator 1 .value)
  else if !s.inFlow && !s.keyAllowed then none
  else
    let s := s.openBlock s.place.column s.tokens.length .blockMappingStart
    some ((s.allowKey !s.inFlow).indicator 1 .value)

/-- An anchor or an alias. -/
def nameToken (s : Scanner) (make : String → Token) : Option Scanner := do
  let s ← s.saveKey
  let (name, p) ← readName s.place
  return ((s.allowKey false).moveTo p).emit (make name)

/-- A tag. -/
def tagToken (s : Scanner) : Option Scanner := do
  let s ← s.saveKey
  let ((handle, rest), p) ← readTag s.inFlow s.place
  return ((s.allowKey false).moveTo p).emit (.tag handle rest)

/-- A block scalar. -/
def blockScalar (s : Scanner) (folded : Bool) : Option Scanner := do
  let s ← s.dropKey
  let (text, p) ← readBlock folded s.indent (s.place.skip 1)
  let style := if folded then Style.folded else Style.literal
  return ((s.allowKey true).moveTo p).emit (.scalar style (String.ofList text))

/-- A scalar in quotes. -/
def quotedScalar (s : Scanner) (single : Bool) : Option Scanner := do
  let s ← s.saveKey
  let (text, p) ← readQuoted single (s.place.rest.length + 1) [] (s.place.skip 1)
  return ((s.allowKey false).moveTo p).emit (.scalar .quoted (String.ofList text))

/-- A plain scalar. -/
def plainScalar (s : Scanner) : Option Scanner := do
  let s ← s.saveKey
  let (text, broken, p) ←
    readPlain s.inFlow (s.indent + 1) (s.place.rest.length + 1) [] {} s.place
  return ((s.allowKey broken).moveTo p).emit (.scalar .plain (String.ofList text))

/-- A character that no plain scalar starts with. -/
def isIndicator (c : Char) : Bool :=
  "-?:,[]\x7b\x7d#&*!|>'\"%@`".toList.contains c

/-- A plain scalar starts here. -/
def seesPlain (s : Scanner) : Bool :=
  match s.place.peek with
  | none => false
  | some c =>
    let next := s.place.peekAt 1
    !(isGap (some c) || isIndicator c) || (c == '-' && !next.any isBlank) ||
      (!s.inFlow && (c == '?' || c == ':') && !isGap next)

/-- The next token, at a place that is neither a gap nor the end. -/
def token (s : Scanner) (c : Char) : Option Scanner :=
  let gapNext := isGap (s.place.peekAt 1)
  if s.place.column == 0 && c == '%' then do
    let s ← s.closeAll
    let (t, p) ← readDirective s.place
    return (s.moveTo p).emit t
  else if s.place.seesMarker '-' then do
    let s ← s.closeAll
    return s.indicator 3 .documentStart
  else if s.place.seesMarker '.' then do
    let s ← s.closeAll
    return s.indicator 3 .documentEnd
  else if c == '[' then s.openFlow .flowSequenceStart
  else if c == '\x7b' then s.openFlow .flowMappingStart
  else if c == ']' then s.closeFlow .flowSequenceEnd
  else if c == '\x7d' then s.closeFlow .flowMappingEnd
  else if c == ',' then s.flowEntry
  else if c == '-' && gapNext then s.blockEntry
  else if c == '?' && (s.inFlow || gapNext) then s.explicitKey
  else if c == ':' && (s.inFlow || gapNext) then s.valueMark
  else if c == '*' then s.nameToken .alias
  else if c == '&' then s.nameToken .anchor
  else if c == '!' then s.tagToken
  else if c == '|' && !s.inFlow then s.blockScalar false
  else if c == '>' && !s.inFlow then s.blockScalar true
  else if c == '\'' then s.quotedScalar true
  else if c == '"' then s.quotedScalar false
  else if s.seesPlain then s.plainScalar
  else none

/-- The tokens that were read before a fault, the last one first. -/
def tear (s : Scanner) : List Token :=
  let keys := (s.keyStart :: s.outerKeys).filter (·.possible)
  let settled := (keys.map (·.number)).foldl min s.tokens.length
  .fault :: s.tokens.drop (s.tokens.length - settled)

/-- The tokens from a state on, the last one first; each step but the last one reads on. -/
def scan : (fuel : Nat) → Scanner → List Token
  | 0, s => s.tear
  | fuel + 1, s =>
    match (s.skipGaps (s.place.rest.length + 1)).dropStaleKeys with
    | none => s.tear
    | some next =>
      let closed := next.closeBlocks next.place.column
      match closed.place.peek with
      | none =>
        match (closed.closeBlocks (-1)).dropKey with
        | some s => .streamEnd :: s.tokens
        | none => next.tear
      | some c =>
        match closed.token c with
        | none => next.tear
        | some s => scan fuel s

end Scanner

/-- A character that a document can hold. -/
def isAllowed (c : Char) : Bool :=
  let n := c.toNat
  n == 9 || n == 10 || n == 13 || (0x20 ≤ n && n ≤ 0x7E) || n == 0x85 ||
    (0xA0 ≤ n && n ≤ 0xFFFD) || 0x10000 ≤ n

/-- The tokens of a text. -/
def tokens (text : String) : List Token :=
  let cs := text.toList
  if cs.all isAllowed then (Scanner.scan (cs.length + 1) { place := { rest := cs } }).reverse
  else [.fault]

end Remap.Yaml
