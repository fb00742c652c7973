import Remap.Command.Report
import Remap.Regex.Reader
import Remap.Yaml.Reader

/-!
# The command line

Reads the files that a command names, runs the command on their texts, and prints or writes the
result.
-/

namespace Remap

/-- Why an access to a file failed. -/
def FileFault.ofError : IO.Error → FileFault
  | .noFileOrDirectory .. => .missing
  | .inappropriateType _ code _ => if code == 20 then .notDirectory else .directory
  | e => .other (toString e)

/-- The text of a file, or why there is none. -/
def readFile (path : String) : IO (Except FileFault String) := do
  try
    let bytes ← IO.FS.readBinFile path
    match String.fromUTF8? bytes with
    | some text => return .ok text
    | none => return .error .notText
  catch e => return .error (.ofError e)

/-- Writes a file; says why that failed. -/
def writeFile (path text : String) : IO (Option FileFault) := do
  try
    IO.FS.writeFile path text
    return none
  catch e => return some (.ofError e)

/-- Runs a command on files. -/
def runCommand (command : Command) : IO Report := do
  let texts ← command.inputs.mapM fun path => return (path, ← readFile path)
  let read (path : String) : Except FileFault String :=
    ((texts.find? fun entry => entry.1 == path).map (·.2)).getD (.error .missing)
  match command.run read with
  | .error failure => return .ofFailure failure
  | .ok ⟨text, none⟩ => return { output := text }
  | .ok ⟨text, some path⟩ =>
    match ← writeFile path text with
    | some fault => return .ofUnwritten path fault
    | none => return {}

/-- The report of a command line. -/
def runLine (args : List String) : IO Report :=
  match Invocation.read args with
  | .run command => runCommand command
  | .help topic => return .ofHelp topic
  | .version => return .ofVersion
  | .misuse => return .ofMisuse

end Remap

/-- Shows the report of the command line and exits with its code. -/
def main (args : List String) : IO UInt32 := do
  let report ← Remap.runLine args
  (← IO.getStdout).putStr report.output
  (← IO.getStderr).putStr report.errors
  return UInt32.ofNat report.code
