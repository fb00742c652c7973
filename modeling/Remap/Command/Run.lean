import Remap.Command.Arguments
import Remap.Command.Failure
import Remap.Command.Files
import Remap.Definition.Build
import Remap.Definition.Document
import Remap.Json.Bridge
import Remap.Json.Printer
import Remap.Json.Reader
import Remap.Mapping.Inspect

/-!
# Running commands

What a command makes of the files it names. A command needs the texts of some files and has one
text as its result, which is printed or written to a file. The steps are taken in the order in
which their failures show: the mapping, the source, the target, the pass over all entries.
-/

namespace Remap

/-- How the texts of files are found. -/
abbrev Reading := String → Except FileFault String

/-- A text to be printed, or to be written to a file. -/
structure Product where
  text : String
  output : Option String := none
  deriving DecidableEq, Repr

namespace Command

/-- The sentence for a document that is no definition. -/
def documentFault : Yaml.ReadFault → String
  | .malformed => "not a mapping"
  | .moreThanOne => "more than one document"
  | .repetition => "repetition limit exceeded"

/-- The definition in a file. -/
def readDefinition [Yaml.Engine] (read : Reading) (path : String) : Except Failure Definition :=
  let result : Except Failure Definition :=
    match read path with
    | .error fault => .error ⟨"Failed to read " ++ path ++ ": " ++ fault.message, []⟩
    | .ok text =>
      match Definition.ofDocument text with
      | .error fault => .error ⟨"Failed to parse mapping: " ++ documentFault fault, []⟩
      | .ok d => .ok d
  result.mapError (·.within ("Failed to load mapping " ++ path))

/-- The value in a data document. -/
def readValue (read : Reading) (path : String) : Except Failure Value :=
  match read path with
  | .error fault => .error ⟨"Failed to read " ++ path, [fault.message]⟩
  | .ok text =>
    match Json.read text with
    | none => .error ⟨path ++ " is not valid JSON", []⟩
    | some document => .ok (Value.ofJson document)

variable [Regex.Engine] [Yaml.Engine]

/-- The mapper of a definition from a file. -/
def buildMapper (path : String) (d : Definition) : Except Failure FieldMapper :=
  d.build.mapError fun e => (Failure.ofMapping e).within ("Invalid mapping " ++ path)

/-- The target to map onto: of the declared type, if that is registered. -/
def bindTarget (m : FieldMapper) (target : Value) : Except Failure Value :=
  match m.recordTypes with
  | some (_, name) =>
    if m.types.contains name then
      (m.types.instantiate name target).mapError fun e =>
        (Failure.ofModel e).within "Target document does not match the declared target type"
    else .ok target
  | none => .ok target

/-- The target of a mapping: the value in a file, or a new one. -/
def readTarget (read : Reading) (m : FieldMapper) : Option String → Except Failure Value
  | none => .ok m.newTarget
  | some path => do
    let target ← readValue read path
    bindTarget m target

/-- The source of a mapping, of the declared type. -/
def readSource (read : Reading) (m : FieldMapper) (path : String) : Except Failure Value := do
  let source ← readValue read path
  (m.bindSource source).mapError fun e =>
    (Failure.ofMapping e).within "Source document does not match the declared source type"

/-- The text of a mapped document. -/
def runMap (read : Reading) (mapping source : String) (target : Option String) :
    Except Failure String := do
  let definition ← readDefinition read mapping
  let m ← buildMapper mapping definition
  let source ← readSource read m source
  let target ← readTarget read m target
  let (mapped, _) := (m.map source target).run []
  let value ← mapped.mapError Failure.ofMapping
  return value.toJson.pretty ++ "\n"

/-- The lines about a mapping that is valid. -/
def describe (d : Definition) (types : TypeRegistry) (m : FieldMapper) : List String :=
  let typeName (side : String × String → String) : String := (m.recordTypes.map side).getD "*"
  ["Mapping '" ++ d.name ++ "' is valid",
    "  types: " ++ typeName (·.1) ++ " -> " ++ typeName (·.2),
    "  declared types: " ++ toString types.size,
    "  rules: " ++ toString m.entries.length] ++
  m.entries.map (fun e => "    " ++ e.text) ++
  ["  auto-mapping: " ++ (if m.autoMapping then "on" else "off"),
    "  failure policy: " ++ m.policy.text]

/-- The text about an examined mapping. -/
def runCheck (read : Reading) (mapping : String) : Except Failure String := do
  let definition ← readDefinition read mapping
  let types ← definition.typeRegistry.mapError fun e =>
    (Failure.ofMapping e).within ("Invalid types in " ++ mapping)
  let m ← buildMapper mapping definition
  return String.join ((describe definition types m).map (· ++ "\n"))

/-- What a command results in. -/
def run (read : Reading) : Command → Except Failure Product
  | .map mapping source target output => do
    let text ← runMap read mapping source target
    return ⟨text, output⟩
  | .check mapping => do
    let text ← runCheck read mapping
    return ⟨text, none⟩

/-- The files that a command can read. -/
def inputs : Command → List String
  | .map mapping source target _ => mapping :: source :: target.toList
  | .check mapping => [mapping]

end Command

end Remap
