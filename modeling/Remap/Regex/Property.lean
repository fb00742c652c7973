import Remap.Regex.CharSet
import Remap.Text.ScriptUse
import Remap.Text.Segment

/-!
# Character properties by name

The names that a pattern can give to a character property. A name alone stands for a property that
is yes or no, a general category or a script; a name with a value for one of the properties that
have values. Names are compared without case, spaces, underscores and hyphens.
-/

namespace Remap.Regex

/-- A name without the two letters that it may start with to no effect. -/
def dropIs : List Char → List Char
  | 'i' :: 's' :: rest | 'I' :: 's' :: rest | 'i' :: 'S' :: rest | 'I' :: 'S' :: rest => rest
  | cs => cs

/-- A property name in the form that names are compared in. A name that starts with `is` and has
nothing but a `c` after it keeps its start: it is another name than the one of a category. -/
def normalizeName (name : String) : String :=
  let cs := dropIs name.toList
  let kept := cs.filter fun c => c != ' ' && c != '_' && c != '-' && c.toNat < 128
  let kept := kept.map Char.toLower
  if kept == ['c'] && cs.length != name.length then "isc" else String.ofList kept

/-- The general categories and the groups of them, by their short and long names. -/
def categoryNames : List (List String × List Text.Category) := [
  (["lu", "uppercaseletter"], [.uppercaseLetter]),
  (["ll", "lowercaseletter"], [.lowercaseLetter]),
  (["lt", "titlecaseletter"], [.titlecaseLetter]),
  (["lm", "modifierletter"], [.modifierLetter]),
  (["lo", "otherletter"], [.otherLetter]),
  (["mn", "nonspacingmark"], [.nonspacingMark]),
  (["mc", "spacingmark"], [.spacingMark]),
  (["me", "enclosingmark"], [.enclosingMark]),
  (["nd", "decimalnumber", "digit"], [.decimalNumber]),
  (["nl", "letternumber"], [.letterNumber]),
  (["no", "othernumber"], [.otherNumber]),
  (["pc", "connectorpunctuation"], [.connectorPunctuation]),
  (["pd", "dashpunctuation"], [.dashPunctuation]),
  (["ps", "openpunctuation"], [.openPunctuation]),
  (["pe", "closepunctuation"], [.closePunctuation]),
  (["pi", "initialpunctuation"], [.initialPunctuation]),
  (["pf", "finalpunctuation"], [.finalPunctuation]),
  (["po", "otherpunctuation"], [.otherPunctuation]),
  (["sm", "mathsymbol"], [.mathSymbol]),
  (["sc", "currencysymbol"], [.currencySymbol]),
  (["sk", "modifiersymbol"], [.modifierSymbol]),
  (["so", "othersymbol"], [.otherSymbol]),
  (["zs", "spaceseparator"], [.spaceSeparator]),
  (["zl", "lineseparator"], [.lineSeparator]),
  (["zp", "paragraphseparator"], [.paragraphSeparator]),
  (["cc", "control", "cntrl"], [.control]),
  (["cf", "format"], [.format]),
  (["co", "privateuse"], [.privateUse]),
  (["cn", "unassigned"], [.unassigned]),
  (["lc", "casedletter"], [.uppercaseLetter, .lowercaseLetter, .titlecaseLetter]),
  (["l", "letter"], [.uppercaseLetter, .lowercaseLetter, .titlecaseLetter, .modifierLetter,
    .otherLetter]),
  (["m", "mark", "combiningmark"], [.nonspacingMark, .spacingMark, .enclosingMark]),
  (["n", "number"], [.decimalNumber, .letterNumber, .otherNumber]),
  (["p", "punctuation", "punct"], [.connectorPunctuation, .dashPunctuation, .openPunctuation,
    .closePunctuation, .initialPunctuation, .finalPunctuation, .otherPunctuation]),
  (["s", "symbol"], [.mathSymbol, .currencySymbol, .modifierSymbol, .otherSymbol]),
  (["z", "separator"], [.spaceSeparator, .lineSeparator, .paragraphSeparator]),
  (["c", "other"], [.control, .format, .surrogate, .privateUse, .unassigned])]

/-- The set of a general category name. Surrogates are no characters, so their category has none. -/
def categorySet? (name : String) : Option CharSet :=
  match name with
  | "any" => some .all
  | "ascii" => some .ascii
  | "assigned" => some (Text.Category.ranges (· == .unassigned) .previous).compl
  | _ =>
    (categoryNames.find? (·.1.contains name)).map fun entry =>
      Text.Category.ranges entry.2.contains .previous

/-- The characters of an age: all that were added by then. -/
def ageSet? (name : String) : Option CharSet :=
  let isNamed (version : Nat × Nat) : Bool :=
    name == toString version.1 ++ "." ++ toString version.2 ||
      name == "v" ++ toString version.1 ++ toString version.2
  ((Text.versions.dropLast).findIdx? isNamed).map Text.addedBy

/-- The set of a name alone. Three names of general categories are also names of properties that
are no sets. -/
def propertySet? (name : String) : Option CharSet :=
  let name := normalizeName name
  let flag := if name == "cf" || name == "sc" || name == "lc" then none else Text.property? name
  flag.or ((categorySet? name).or (Text.script? name))

/-- The set of a property name with a value. -/
def valueSet? (name value : String) : Option CharSet :=
  let value := normalizeName value
  match normalizeName name with
  | "gc" | "generalcategory" => categorySet? value
  | "sc" | "script" => Text.script? value
  | "scx" | "scriptextensions" => Text.scriptUses? value
  | "age" => ageSet? value
  | "gcb" | "graphemeclusterbreak" => Text.Segment.class? Text.Segment.graphemeTable value
  | "wb" | "wordbreak" => Text.Segment.class? Text.Segment.wordTable value
  | "sb" | "sentencebreak" => Text.Segment.class? Text.Segment.sentenceTable value
  | _ => none

end Remap.Regex
