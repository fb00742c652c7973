import Remap.Text.Derived
import Remap.Text.Script

/-!
# Segments of text

The Unicode classes that decide where graphemes, words and sentences end, for the edition that
patterns follow.
-/

namespace Remap.Text

namespace Segment

open Category

/-- The code points of one category. -/
def category (c : Category) : Ranges := ofCategory c .previous

/-- The code points of a script. -/
def script (name : String) : Ranges := (script? name).getD []

/-- Some code points without those of other sets. -/
def without (r : Ranges) (others : List Ranges) : Ranges := r.diff (Ranges.unions others)

/-- Marks that are shown after their base and belong to it. -/
def spacing : Ranges := category spacingMark

/-- Format characters that are a class of their own, and joiners. -/
def joiner : Ranges := [(0x200D, 0x200D)]

/-- Signs before Arabic numbers. -/
def numberSigns : Ranges := Ranges.ofLines ["600-605 6DD 890-891 8E2 110BD 110CD"]

/-! ## Graphemes -/

/-- What extends a grapheme. -/
def graphemeExtending : Ranges := (graphemeExtend .previous).union (listed "emojimodifier")

/-- What is a grapheme of its own, besides the two line ends. -/
def graphemeControl : Ranges :=
  let ignorable := (defaultIgnorable .previous).inter (category unassigned)
  without (Ranges.unions
      [category lineSeparator, category paragraphSeparator, category control, category format,
        ignorable])
    [Ranges.ofLines ["A D 200C-200D"], listed "prependedconcatenationmark", graphemeExtending]

/-- Marks that are shown after their base but are not part of its grapheme. -/
def detached : Ranges := Ranges.ofLines [
  "102B-102C 1038 1062-1064 1067-106D 1083 1087-108C 108F 109A-109C 1A61 1A63-1A64 AA7B AA7D",
  "11720-11721"]

/-- The first number of the block of Hangul syllables, and the last one. -/
def syllables : Nat × Nat := (0xAC00, 0xD7A3)

/-- How many syllables have the same first letter and vowel. -/
def endings : Nat := 28

/-- The Hangul syllables without an end consonant. -/
def openSyllables : Ranges :=
  Ranges.ofPoints ((List.range 399).map fun i => syllables.1 + endings * i)

/-- The classes of graphemes by their names. -/
def graphemeTable : List (List String × (Unit → Ranges)) := [
  (["cn", "control"], fun _ => graphemeControl),
  (["cr"], fun _ => [(13, 13)]),
  (["lf"], fun _ => [(10, 10)]),
  (["ex", "extend"], fun _ => graphemeExtending),
  (["pp", "prepend"], fun _ => (listed "prependedconcatenationmark").union (Ranges.ofLines
    ["D4E 111C2-111C3 113D1 1193F 11941 11A3A 11A84-11A89 11D46 11F02"])),
  (["ri", "regionalindicator"], fun _ => listed "regionalindicator"),
  (["sm", "spacingmark"], fun _ =>
    (without spacing [graphemeExtending, detached]).union (Ranges.ofLines ["E33 EB3"])),
  (["l"], fun _ => Ranges.ofLines ["1100-115F A960-A97C"]),
  (["v"], fun _ => Ranges.ofLines ["1160-11A7 D7B0-D7C6 16D63 16D67-16D6A"]),
  (["t"], fun _ => Ranges.ofLines ["11A8-11FF D7CB-D7FB"]),
  (["lv"], fun _ => openSyllables),
  (["lvt"], fun _ => without [syllables] [openSyllables]),
  (["zwj"], fun _ => joiner)]

/-! ## Words -/

/-- What belongs to the character before it in a word. -/
def wordExtending : Ranges :=
  without (Ranges.unions [graphemeExtending, spacing]) [joiner]

/-- The Katakana of words. -/
def wordKatakana : Ranges := Ranges.ofLines [
  "3031-3035 309B-309C 30A0-30FA 30FC-30FF 31F0-31FF 32D0-32FE 3300-3357 FF66-FF9D 1AFF0-1AFF3",
  "1AFF5-1AFFB 1AFFD-1AFFE 1B000 1B120-1B122 1B155 1B164-1B167"]

/-- The letters of the Hebrew script. -/
def wordHebrew : Ranges := Ranges.ofLines [
  "5D0-5EA 5EF-5F2 FB1D FB1F-FB28 FB2A-FB36 FB38-FB3C FB3E FB40-FB41 FB43-FB44 FB46-FB4F"]

/-- Characters of scripts that are written without gaps between words. -/
def ungapped : Ranges := Ranges.ofLines [
  "E01-E3A E40-E4E E81-E82 E84 E86-E8A E8C-EA3 EA5 EA7-EBD EC0-EC4 EC6 EC8-ECE EDC-EDF",
  "1000-103F 1050-108F 109A-109F 1780-17D3 17D7 17DC-17DD 1950-196D 1970-1974 1980-19AB",
  "19B0-19C9 19DA 19DE-19DF 1A20-1A5E 1A60-1A7C 1AA0-1AAD A9E0-A9EF A9FA-A9FE AA60-AAC2 AADB-AADF",
  "11700-1171A 1171D-1172B 1173A-1173B 1173F-11746"]

/-- Characters that count as letters of words and are not alphabetic. -/
def wordSymbols : Ranges := Ranges.ofLines [
  "2C2-2C5 2D2-2D7 2DE-2DF 2E5-2EB 2ED 2EF-2FF 55A-55C 55E 58A 5F3 70F A708-A716 A720-A721",
  "A789-A78A AB5B"]

/-- The letters of words. -/
def wordLetters : Ranges :=
  (without (alphabetic .previous)
    [listed "ideographic", wordKatakana, ungapped, script "hira", wordExtending,
      wordHebrew]).union wordSymbols

/-- The classes of words by their names. -/
def wordTable : List (List String × (Unit → Ranges)) := [
  (["cr"], fun _ => [(13, 13)]),
  (["lf"], fun _ => [(10, 10)]),
  (["nl", "newline"], fun _ => Ranges.ofLines ["B-C 85 2028-2029"]),
  (["dq", "doublequote"], fun _ => [(0x22, 0x22)]),
  (["sq", "singlequote"], fun _ => [(0x27, 0x27)]),
  (["extend"], fun _ => wordExtending),
  (["ri", "regionalindicator"], fun _ => listed "regionalindicator"),
  (["fo", "format"], fun _ =>
    without (category format)
      [Ranges.ofLines ["70F 200B-200D"], wordExtending, numberSigns]),
  (["ka", "katakana"], fun _ => wordKatakana),
  (["hl", "hebrewletter"], fun _ => wordHebrew),
  (["le", "aletter"], fun _ => wordLetters),
  (["mb", "midnumlet"], fun _ => Ranges.ofLines ["2E 2018-2019 2024 FE52 FF07 FF0E"]),
  (["ml", "midletter"], fun _ => Ranges.ofLines ["3A B7 387 55F 5F4 2027 FE13 FE55 FF1A"]),
  (["mn", "midnum"], fun _ => Ranges.ofLines
    ["2C 3B 37E 589 60C-60D 66C 7F8 2044 FE10 FE14 FE50 FE54 FF0C FF1B"]),
  (["nu", "numeric"], fun _ =>
    Ranges.unions [category decimalNumber, [(0x66B, 0x66B)], numberSigns]),
  (["ex", "extendnumlet"], fun _ => Ranges.ofLines
    ["5F 202F 203F-2040 2054 FE33-FE34 FE4D-FE4F FF3F"]),
  (["wsegspace"], fun _ => Ranges.ofLines ["20 1680 2000-2006 2008-200A 205F 3000"]),
  (["zwj"], fun _ => joiner)]

/-! ## Sentences -/

/-- What belongs to the character before it in a sentence. -/
def sentenceExtending : Ranges := Ranges.unions [graphemeExtend .previous, spacing, joiner]

/-- Full stops that need not end a sentence. -/
def sentenceStops : Ranges := Ranges.ofLines ["2E 2024 FE52 FF0E"]

/-- Small letters, but for those of scripts in which they also start sentences. -/
def sentenceLower : Ranges :=
  without (lowercase .previous) [graphemeExtend .previous, georgianSmall]

/-- Capital letters, but for those of scripts in which sentences do not start with them. -/
def sentenceUpper : Ranges :=
  without ((uppercase .previous).union (category titlecaseLetter))
    [Ranges.ofLines ["1C90-1CBA 1CBD-1CBF"]]

/-- Quotation marks that neither open nor close. -/
def sentenceQuotes : Ranges := Ranges.ofLines [
  "22 27 275B-2760 2E00-2E01 2E06-2E08 2E0B 1F676-1F678"]

/-- The classes of sentences by their names. -/
def sentenceTable : List (List String × (Unit → Ranges)) := [
  (["cr"], fun _ => [(13, 13)]),
  (["lf"], fun _ => [(10, 10)]),
  (["se", "sep"], fun _ => Ranges.ofLines ["85 2028-2029"]),
  (["ex", "extend"], fun _ => sentenceExtending),
  (["fo", "format"], fun _ =>
    without (category format) [sentenceExtending, numberSigns]),
  (["sp"], fun _ => without (listed "whitespace") [Ranges.ofLines ["A D 85 2028-2029"]]),
  (["lo", "lower"], fun _ => sentenceLower),
  (["up", "upper"], fun _ => sentenceUpper),
  (["le", "oletter"], fun _ =>
    (without (alphabetic .previous) [sentenceLower, sentenceUpper, sentenceExtending]).union
      [(0x5F3, 0x5F3)]),
  (["nu", "numeric"], fun _ =>
    Ranges.unions [category decimalNumber, [(0x66B, 0x66C)], numberSigns]),
  (["at", "aterm"], fun _ => sentenceStops),
  (["sc", "scontinue"], fun _ => Ranges.ofLines
    ["2C-2D 3A-3B 37E 55D 60C-60D 7F8 1802 1808 2013-2014 3001 FE10-FE11 FE13-FE14 FE31-FE32",
      "FE50-FE51 FE54-FE55 FE58 FE63 FF0C-FF0D FF1A-FF1B FF64"]),
  (["st", "sterm"], fun _ => without (listed "sentenceterminal") [sentenceStops]),
  (["cl", "close"], fun _ =>
    Ranges.unions [category openPunctuation, category closePunctuation,
      category initialPunctuation, category finalPunctuation, sentenceQuotes])]

/-- The class of a name in a table. -/
def class? (table : List (List String × (Unit → Ranges))) (name : String) : Option Ranges :=
  (table.find? fun entry => entry.1.contains name).map fun entry => entry.2 ()

end Segment

end Remap.Text
