import Remap.Expression.Evaluate
import Remap.Mapping.Entry
import Remap.Path.Write

/-!
# Running entries

An entry reads from the source and writes to the target in place. It leaves a result and the
target as it stands afterwards, also when it fails.
-/

namespace Remap

/-- What stays the same while entries run: the source, the field names it offers, and how values
are fitted to their place. -/
structure Pass where
  source : Value
  fieldNames : List String
  coercer : Coercer Scoped

/-- What an entry came to: nothing, a value or the cause of a failure, with the target after
it. -/
abbrev Applied := Except FailureCause (Option Value) × Value

namespace Pass

/-- What source expressions refer to. -/
def sourceEnvironment (pass : Pass) : Expression.Environment :=
  ⟨pass.source, [("source", pass.source)]⟩

/-- What guards refer to. -/
def guardEnvironment (pass : Pass) (target : Value) : Expression.Environment :=
  ⟨pass.source, [("source", pass.source), ("target", target)]⟩

variable [Regex.Engine]

/-- The value of a source expression. -/
def read (pass : Pass) (e : Expression) : Except EvalError Value :=
  e.evaluate pass.sourceEnvironment

/-- The verdict of a guard; without one an entry applies. -/
def applies (pass : Pass) (target : Value) : Option Expression → Except EvalError Bool
  | some guard => guard.holds (pass.guardEnvironment target)
  | none => .ok true

/-- A value stored at a path of the target. -/
def write (pass : Pass) (path : Path) (v target : Value) : Scoped Applied := do
  let (verdict, after) ← path.writeInto pass.coercer target v
  match verdict with
  | .ok () => return (.ok (some v), after)
  | .error e => return (.error (.write e), after)

/-- The values of expressions stored in a record under the texts of the expressions. -/
def gatherFields (pass : Pass) (parts : Record) : List Expression → Except EvalError Record
  | [] => .ok parts
  | e :: rest => do
    let v ← pass.read e
    gatherFields pass (parts.put e.text v) rest

/-- The fields of a group stored in a record under their suffixes. -/
def gatherGroup (pass : Pass) (stem : String) (parts : Record) :
    List String → Except EvalError Record
  | [] => .ok parts
  | name :: rest =>
    match Assembly.suffix? stem name with
    | none => gatherGroup pass stem parts rest
    | some suffix => do
      let v ← pass.read (.ofProperty name)
      gatherGroup pass stem (parts.put suffix v) rest

/-- The record that an assembly gathers. -/
def gather (pass : Pass) : Assembly → Except EvalError Record
  | .fields sources => pass.gatherFields .unnamed sources
  | .group stem => pass.gatherGroup stem .unnamed pass.fieldNames

/-- A value through a converter and then to a path of the target. -/
def convertAndWrite (pass : Pass) (converter : Option Converter) (path : Path) (v target : Value) :
    Scoped Applied :=
  match converter with
  | none => pass.write path v target
  | some c =>
    match c.apply v with
    | .ok w => pass.write path w target
    | .error e => pure (.error (.conversion e), target)

/-- A nested mapper run on the target. `v` is the value that its success reports. -/
def runNested (mapper : NestedMapper) (source v target : Value) : Scoped Applied := do
  let (verdict, after) ← mapper.run source target
  match verdict with
  | .ok () => return (.ok (some v), after)
  | .error e => return (.error (.nested e), after)

/-- An action carried out. A value that is null is not fanned out. -/
def apply (pass : Pass) (target : Value) : Action → Scoped Applied
  | .field source path converter =>
    match pass.read source with
    | .error e => pure (.error (.read e), target)
    | .ok v => pass.convertAndWrite converter path v target
  | .fanOut source mapper =>
    match pass.read source with
    | .error e => pure (.error (.read e), target)
    | .ok v => if v.isNull then pure (.ok none, target) else runNested mapper v v target
  | .whole _ mapper => runNested mapper pass.source .null target
  | .assembled sources path assembler =>
    match pass.gather sources with
    | .error e => pure (.error (.read e), target)
    | .ok parts => pass.convertAndWrite (some assembler) path (.record parts) target

/-- What an applied entry is reported as. -/
def outcome (severity : Severity) : Except FailureCause (Option Value) → Outcome
  | .ok (some v) => .success v
  | .ok none => .skipped
  | .error cause => .failure cause severity

/-- How much a failure of an entry weighs: less if the entry was found by name. -/
def severity (auto : Bool) : Severity := if auto then .warning else .error

/-- An entry run: its outcome and the target after it. -/
def outcomeOf (pass : Pass) (auto : Bool) (e : Entry) (target : Value) :
    Scoped (Outcome × Value) :=
  match pass.applies target e.condition with
  | .error cause => pure (.failure (.condition cause) (severity auto), target)
  | .ok false => pure (.skipped, target)
  | .ok true => do
    let (applied, after) ← pass.apply target e.action
    return (outcome (severity auto) applied, after)

/-- An entry run: its result and the target after it. -/
def runEntry (pass : Pass) (auto : Bool) (e : Entry) (target : Value) :
    Scoped (MappingResult × Value) := do
  let (outcome, after) ← pass.outcomeOf auto e target
  return (⟨e.sourceLabel, e.targetLabel, auto, outcome⟩, after)

/-- Entries run in order: one result for each, and the target after the last. -/
def runEntries (pass : Pass) (auto : Bool) : List Entry → Value →
    Scoped (List MappingResult × Value)
  | [], target => pure ([], target)
  | e :: rest, target => do
    let (result, next) ← pass.runEntry auto e target
    let (results, last) ← pass.runEntries auto rest next
    return (result :: results, last)

end Pass

end Remap
