import Remap.Command.Run

/-!
# Reports

What a command line shows: the exit code, the text on the standard output and the text on the
standard error. Failures exit with 1, command lines that cannot be read with 2.
-/

namespace Remap

/-- An exit code, an output and an error output. -/
structure Report where
  code : Nat := 0
  output : String := ""
  errors : String := ""
  deriving DecidableEq, Repr

namespace Report

/-- The lines of a text. -/
def ofLines (lines : List String) : String := String.join (lines.map (· ++ "\n"))

/-- The lines of help about a topic. -/
def helpLines : Topic → List String
  | .program =>
    ["Field mapping engine CLI",
      "",
      "Usage: fieldmap <COMMAND>",
      "",
      "Commands:",
      "  map    Map a JSON source document onto a target document",
      "  check  Validate a mapping file",
      "  help   Print this message or the help of the given subcommand(s)",
      "",
      "Options:",
      "  -h, --help     Print help",
      "  -V, --version  Print version"]
  | .map =>
    ["Map a JSON source document onto a target document",
      "",
      "Usage: fieldmap map [OPTIONS] --mapping <MAPPING> --source <SOURCE>",
      "",
      "Options:",
      "  -m, --mapping <MAPPING>  Mapping file path",
      "  -s, --source <SOURCE>    Source JSON file path",
      "  -t, --target <TARGET>    " ++
        "Existing target JSON to map onto; an empty target is created when omitted",
      "  -o, --output <OUTPUT>    Output file path; the result is printed when omitted",
      "  -h, --help               Print help"]
  | .check =>
    ["Validate a mapping file",
      "",
      "Usage: fieldmap check --mapping <MAPPING>",
      "",
      "Options:",
      "  -m, --mapping <MAPPING>  Mapping file path",
      "  -h, --help               Print help"]
  | .help =>
    ["Print this message or the help of the given subcommand(s)",
      "",
      "Usage: fieldmap help [COMMAND]",
      "",
      "Commands:",
      "  map    Map a JSON source document onto a target document",
      "  check  Validate a mapping file",
      "  help   Print this message or the help of the given subcommand(s)"]

/-- The report of a failure. -/
def ofFailure (f : Failure) : Report := { code := 1, errors := f.text }

/-- The report of a file that could not be written. -/
def ofUnwritten (path : String) (fault : FileFault) : Report :=
  .ofFailure ⟨"Failed to write " ++ path, [fault.message]⟩

/-- The report of help. -/
def ofHelp (topic : Topic) : Report := { output := ofLines (helpLines topic) }

/-- The report of the version. -/
def ofVersion : Report := { output := "fieldmap 0.1.0\n" }

/-- The report of a command line that cannot be read. -/
def ofMisuse : Report :=
  { code := 2,
    errors := ofLines ["error: the arguments cannot be read", "", "Usage: fieldmap <COMMAND>", "",
      "For more information, try '--help'."] }

end Report

namespace Files

variable [Regex.Engine] [Yaml.Engine]

/-- The report of a command on a directory, and the directory after it. -/
def run (files : Files) (command : Command) : Report × Files :=
  match command.run files.read with
  | .error failure => (.ofFailure failure, files)
  | .ok ⟨text, none⟩ => ({ output := text }, files)
  | .ok ⟨text, some path⟩ =>
    match files.write path text with
    | .error fault => (.ofUnwritten path fault, files)
    | .ok written => ({ output := written.output, errors := written.errors }, written.files)

/-- The report of a command line in a directory, and the directory after it. -/
def runLine (files : Files) (args : List String) : Report × Files :=
  match Invocation.read args with
  | .run command => files.run command
  | .help topic => (.ofHelp topic, files)
  | .version => (.ofVersion, files)
  | .misuse => (.ofMisuse, files)

end Files

end Remap
