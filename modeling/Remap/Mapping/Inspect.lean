import Remap.Mapping.Mapper
import Remap.Text.Escaped

/-!
# Texts for inspection

One line that shows the settings of a mapper, the pairs of a registry, or the size of a cache.
-/

namespace Remap

/-- The text of an entry after the word for its kind. -/
def Entry.inspect (e : Entry) : String := e.action.kind ++ "(" ++ e.text ++ ")"

/-- The word for a policy. -/
def FailurePolicy.text : FailurePolicy → String
  | .raise => "Raise"
  | .raiseOnErrors => "RaiseOnErrors"
  | .collect => "Collect"

/-- Neighbours that are equal are written once. -/
def dropRepeats : List String → List String
  | [] => []
  | [a] => [a]
  | a :: b :: rest => if a = b then dropRepeats (b :: rest) else a :: dropRepeats (b :: rest)

/-- Names as a set: in ascending order, each once. -/
def sortedNames (names : List String) : List String :=
  dropRepeats (names.mergeSort fun a b => decide (a ≤ b))

/-- A named group of settings, of which some are not shown. -/
def inspectSettings (name : String) (settings : List (String × String)) : String :=
  name ++ " \x7b " ++ ", ".intercalate (settings.map fun (key, text) => key ++ ": " ++ text) ++
    ", .. \x7d"

/-- The settings of a mapper. -/
def FieldMapper.inspect (m : FieldMapper) : String :=
  inspectSettings "FieldMapper" [
    ("entries", "[" ++ ", ".intercalate (m.entries.map Entry.inspect) ++ "]"),
    ("auto_mapping", if m.autoMapping then "true" else "false"),
    ("excluded_fields",
      "\x7b" ++ ", ".intercalate ((sortedNames m.excluded).map Text.escaped) ++ "\x7d"),
    ("failure_policy", m.policy.text),
    ("source_type", Text.escaped? (m.recordTypes.map (·.1))),
    ("target_type", Text.escaped? (m.recordTypes.map (·.2)))]

/-- The pairs of a registry. -/
def ConversionRegistry.inspect {m : Type → Type} (r : ConversionRegistry m) : String :=
  inspectSettings "ConversionRegistry" [
    ("converters", "[" ++ ", ".intercalate (r.pairTexts.map Text.escaped) ++ "]")]

/-- The size of a cache of views. -/
def ViewCache.inspect (cache : ViewCache) : String :=
  inspectSettings "DefaultMappableTypeFactory" [("cached", toString cache.size)]

end Remap
