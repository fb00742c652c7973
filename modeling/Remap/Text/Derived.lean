import Remap.Text.Case
import Remap.Text.Listed

/-!
# Derived properties

The Unicode properties that the standard derives from general categories, case mappings and listed
properties.
-/

namespace Remap.Text

open Category

/-- The code points of one category. -/
def ofCategory (c : Category) : Edition → Ranges := Category.ranges (· == c)

/-- The property `Alphabetic`. -/
def alphabetic (e : Edition) : Ranges :=
  (Category.ranges Category.isLetter e).union (e.keep otherAlphabetic)

/-- The property `Lowercase`. -/
def lowercase (e : Edition) : Ranges :=
  (ofCategory lowercaseLetter e).union (e.keep otherLowercase)

/-- The property `Uppercase`. -/
def uppercase (e : Edition) : Ranges :=
  (ofCategory uppercaseLetter e).union (e.keep otherUppercase)

/-- The property `Cased`. -/
def cased (e : Edition) : Ranges :=
  Ranges.unions [lowercase e, uppercase e, ofCategory titlecaseLetter e]

/-- A category whose characters are case-ignorable. -/
def Category.isCaseIgnorable : Category → Bool
  | nonspacingMark | enclosingMark | format | modifierLetter | modifierSymbol => true
  | _ => false

/-- The property `Case_Ignorable`. -/
def caseIgnorable (e : Edition) : Ranges :=
  (Category.ranges Category.isCaseIgnorable e).union (e.keep otherCaseIgnorable)

/-! ## Changes of case -/

/-- The code points that steps send elsewhere, as far as an edition has both. -/
def stepped (steps : List CaseStep) (e : Edition) : Ranges :=
  let added : Ranges := match e with
    | .current => []
    | .previous => additions
  Ranges.ofPoints <| steps.flatMap fun step =>
    (List.range step.count).filterMap fun i =>
      let n := step.first + i * step.stride
      if added.contains n || added.contains (step.image + i * step.stride) then none else some n

/-- The property `Changes_When_Lowercased`. -/
def changesLowercased (e : Edition) : Ranges := (stepped lowerSteps e).union [(0x130, 0x130)]

/-- The property `Changes_When_Uppercased`. -/
def changesUppercased (e : Edition) : Ranges :=
  (stepped upperSteps e).union (Ranges.ofPoints (upperExpansions.map (·.1)))

/-- Letters of the Georgian script that are small but stay as they are in titles. -/
def georgianSmall : Ranges := [(0x10D0, 0x10FA), (0x10FD, 0x10FF)]

/-- The property `Changes_When_Titlecased`. -/
def changesTitlecased (e : Edition) : Ranges :=
  let changed := (changesUppercased e).union (Ranges.ofPoints [0x1C4, 0x1C7, 0x1CA, 0x1F1])
  (changed.diff (ofCategory titlecaseLetter e)).diff georgianSmall

/-- The property `Changes_When_Casemapped`. -/
def changesCasemapped (e : Edition) : Ranges :=
  Ranges.unions [changesLowercased e, changesUppercased e, changesTitlecased e]

/-- Characters that change when they are folded and not in lower case. -/
def foldedOnly : Ranges := Ranges.ofLines [
  "B5 DF 149 17F 345 3C2 3D0-3D1 3D5-3D6 3F0-3F1 3F5 587 13F8-13FD 1C80-1C88 1E9A-1E9B 1F80-1F87",
  "1F90-1F97 1FA0-1FA7 1FB2-1FB4 1FB7 1FC2-1FC4 1FC7 1FF2-1FF4 1FF7 AB70-ABBF FB00-FB06",
  "FB13-FB17"]

/-- The property `Changes_When_Casefolded`: Cherokee is folded to capitals. -/
def changesCasefolded (e : Edition) : Ranges :=
  ((changesLowercased e).diff [(0x13A0, 0x13F5)]).union foldedOnly

/-! ## Graphemes, identifiers and mathematics -/

/-- The property `Grapheme_Extend`. -/
def graphemeExtend (e : Edition) : Ranges :=
  Ranges.unions
    [ofCategory nonspacingMark e, ofCategory enclosingMark e, listed "othergraphemeextend"]

/-- A category that no base of a grapheme has. -/
def Category.isBaseless : Category → Bool
  | control | format | surrogate | privateUse | unassigned | lineSeparator
  | paragraphSeparator => true
  | _ => false

/-- The property `Grapheme_Base`. -/
def graphemeBase (e : Edition) : Ranges :=
  (Category.ranges (fun c => !c.isBaseless) e).diff (graphemeExtend e)

/-- Format characters that are shown, besides those that enclose numbers. -/
def shownFormats : Ranges := [(0xFFF9, 0xFFFB), (0x13430, 0x1343F)]

/-- The property `Default_Ignorable_Code_Point`. -/
def defaultIgnorable (e : Edition) : Ranges :=
  let formats := (ofCategory format e).diff (listed "prependedconcatenationmark")
  Ranges.unions
    [formats.diff shownFormats, listed "otherdefaultignorablecodepoint",
      listed "variationselector"]

/-- What patterns of other languages are written with, and no identifier. -/
def patternCharacters : Ranges := (listed "patternsyntax").union (listed "patternwhitespace")

/-- The property `ID_Start`. -/
def idStart (e : Edition) : Ranges :=
  ((Category.ranges Category.isLetter e).union (listed "otheridstart")).diff patternCharacters

/-- A category whose characters can stand inside an identifier but not at its start. -/
def Category.isContinuing : Category → Bool
  | nonspacingMark | spacingMark | decimalNumber | connectorPunctuation => true
  | _ => false

/-- The property `ID_Continue`. -/
def idContinue (e : Edition) : Ranges :=
  Ranges.unions [idStart e,
    (Category.ranges Category.isContinuing e).diff patternCharacters,
    (listed "otheridcontinue").diff patternCharacters]

/-- Characters of identifiers whose normal forms are none. -/
def unstableInside : Ranges := Ranges.ofLines [
  "37A 309B-309C FC5E-FC63 FDFA-FDFB FE70 FE72 FE74 FE76 FE78 FE7A FE7C FE7E"]

/-- Characters at the start of identifiers whose normal forms are at the start of none. -/
def unstableFirst : Ranges := unstableInside.union (Ranges.ofLines ["E33 EB3 FF9E-FF9F"])

/-- The property `XID_Start`. -/
def xidStart (e : Edition) : Ranges := (idStart e).diff unstableFirst

/-- The property `XID_Continue`. -/
def xidContinue (e : Edition) : Ranges := (idContinue e).diff unstableInside

/-- The property `Math`. -/
def math (e : Edition) : Ranges := (ofCategory mathSymbol e).union (listed "othermath")

/-! ## By name -/

/-- The names of each derived property, and the property. -/
def derivedTable : List (List String × (Edition → Ranges)) := [
  (["alphabetic", "alpha"], alphabetic),
  (["otheralphabetic", "oalpha"], fun e => e.keep otherAlphabetic),
  (["lowercase", "lower"], lowercase),
  (["otherlowercase", "olower"], fun e => e.keep otherLowercase),
  (["uppercase", "upper"], uppercase),
  (["otheruppercase", "oupper"], fun e => e.keep otherUppercase),
  (["cased"], cased),
  (["caseignorable", "ci"], caseIgnorable),
  (["changeswhencasefolded", "cwcf"], changesCasefolded),
  (["changeswhencasemapped", "cwcm"], changesCasemapped),
  (["changeswhenlowercased", "cwl"], changesLowercased),
  (["changeswhentitlecased", "cwt"], changesTitlecased),
  (["changeswhenuppercased", "cwu"], changesUppercased),
  (["defaultignorablecodepoint", "di"], defaultIgnorable),
  (["graphemebase", "grbase"], graphemeBase),
  (["graphemeextend", "grext"], graphemeExtend),
  (["idstart", "ids"], idStart),
  (["idcontinue", "idc"], idContinue),
  (["xidstart", "xids"], xidStart),
  (["xidcontinue", "xidc"], xidContinue),
  (["math"], math)]

/-- The code points with the yes-or-no property of a name, for the edition that patterns follow. -/
def property? (name : String) : Option Ranges :=
  match derivedTable.find? fun entry => entry.1.contains name with
  | some (_, property) => some (property .previous)
  | none => listed? name

end Remap.Text
