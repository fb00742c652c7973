/-!
# Files

A directory of texts. A path is a list of names between slashes, with the usual meaning of one and
two dots; each name but the last one has to be a directory. Names and paths have a greatest length
in bytes, and a file cannot be written under a name with a slash behind it.

Of what is outside of the directory only this is known: the directories that every system has, a few
devices, and that no other file is there.
-/

namespace Remap

/-- Why a file cannot be read or written. -/
inductive FileFault
  | missing
  | notDirectory
  | directory
  /-- The path, or a name in it, is longer than paths and names can be. -/
  | tooLong
  /-- Its bytes are no text. -/
  | notText
  /-- There is no room for what is written. -/
  | noRoom
  | other (reason : String)
  deriving DecidableEq, Repr

/-- The sentence for a fault. -/
def FileFault.message : FileFault → String
  | .missing => "No such file or directory (os error 2)"
  | .notDirectory => "Not a directory (os error 20)"
  | .directory => "Is a directory (os error 21)"
  | .tooLong => "File name too long (os error 36)"
  | .notText => "stream did not contain valid UTF-8"
  | .noRoom => "No space left on device (os error 28)"
  | .other reason => reason

/-- Where a file is: the names on the way, the last one first. -/
abbrev Location := List String

/-- A directory of texts. -/
structure Files where
  entries : List (Location × String)

namespace Files

/-- The directory of some paths and texts. -/
def ofPaths (files : List (String × String)) : Files :=
  ⟨files.map fun (path, text) => ((path.splitOn "/").reverse, text)⟩

/-- The text at a location. -/
def textAt? (files : Files) (l : Location) : Option String :=
  (files.entries.find? fun entry => entry.1 == l).map (·.2)

/-- A location is a directory: the outermost one, or one on the way to a file. -/
def isDirectory (files : Files) (l : Location) : Bool :=
  l.isEmpty || files.entries.any fun entry => entry.1 != l && l.isSuffixOf entry.1

/-- Nothing can be below this location, and why. -/
def barrier? (files : Files) (l : Location) : Option FileFault :=
  if files.isDirectory l then none
  else if (files.textAt? l).isSome then some .notDirectory
  else some .missing

/-- The bytes that a name can have. -/
def nameLimit : Nat := 255

/-- The bytes that a path can have. -/
def pathLimit : Nat := 4095

/-- Takes and gives texts, but is no file. -/
inductive Device
  /-- Holds nothing, whatever it takes. -/
  | null
  /-- Has no room for anything. -/
  | full
  | input | output | errors
  deriving DecidableEq, Repr

/-- The device of a name. -/
def device? : String → Option Device
  | "null" => some .null
  | "full" => some .full
  | "stdin" => some .input
  | "stdout" => some .output
  | "stderr" => some .errors
  | _ => none

/-- The directories that every system has. -/
def systemDirectories : List String :=
  ["bin", "boot", "dev", "etc", "home", "lib", "media", "mnt", "opt", "proc", "root", "run", "sbin",
    "srv", "sys", "tmp", "usr", "var"]

/-- Where a path leads. -/
inductive Spot
  | inside (l : Location)
  | device (d : Device)
  /-- In a directory outside, where no file has the name. -/
  | outside
  deriving DecidableEq, Repr

/-- The name leads to another directory or file. -/
def isProper (name : String) : Bool := name != "" && name != "." && name != ".."

/-- Where names lead from a directory outside; two dots take the name before them back. -/
def reduce (l : Location) : List String → Location
  | [] => l
  | name :: rest =>
    if name == ".." then reduce l.tail rest
    else if isProper name then reduce (name :: l) rest
    else reduce l rest

/-- Where names lead that start outside, at the outermost directory of all if `top` says so. -/
def spotOutside (top : Bool) (names : List String) : Except FileFault Spot :=
  if names.any fun name => nameLimit < name.utf8ByteSize then .error .tooLong
  else match reduce [] names with
  | [] => .error .directory
  | [name] =>
    if top && systemDirectories.contains name then .error .directory else .ok .outside
  | [name, directory] =>
    match if top && directory == "dev" then device? name else none with
    | some d => if names.getLast? == some name then .ok (.device d) else .error .notDirectory
    | none =>
      if top && systemDirectories.contains directory then .ok .outside else .error .missing
  | _ => .error .missing

/-- Where names lead from a location. A name is measured when its directory is known to be one. -/
def walk (files : Files) (l : Location) : List String → Except FileFault Spot
  | [] => .ok (.inside l)
  | name :: rest =>
    match files.barrier? l with
    | some fault => .error fault
    | none =>
      if name == "" || name == "." then walk files l rest
      else if name == ".." then
        match l with
        | [] => spotOutside false rest
        | _ :: outer => walk files outer rest
      else if nameLimit < name.utf8ByteSize then .error .tooLong
      else walk files (name :: l) rest

/-- Where a path leads. -/
def locate (files : Files) (path : String) : Except FileFault Spot :=
  if pathLimit < path.utf8ByteSize then .error .tooLong
  else if path.startsWith "/" then spotOutside true (path.splitOn "/")
  else files.walk [] (path.splitOn "/")

/-- The path without the name at its end and the slashes behind that name, where there is such a
name with such slashes. -/
def outerOfSlashed? (path : String) : Option String :=
  match (path.splitOn "/").reverse with
  | "" :: rest =>
    match rest.dropWhile (· == "") with
    | [] => none
    | name :: outer => if isProper name then some ("/".intercalate outer.reverse) else none
  | _ => none

/-- The text of a file. -/
def read (files : Files) (path : String) : Except FileFault String := do
  match ← files.locate path with
  | .inside l =>
    match files.textAt? l with
    | some text => .ok text
    | none => .error (if files.isDirectory l then .directory else .missing)
  | .device .null | .device .input => .ok ""
  | .device _ | .outside => .error .missing

/-- The directory with a text at a location. -/
def putText (l : Location) (text : String) :
    List (Location × String) → List (Location × String)
  | [] => [(l, text)]
  | entry :: rest =>
    if entry.1 == l then (l, text) :: rest else entry :: putText l text rest

/-- What comes of writing a text: the directory after it, and what is shown of the text. -/
structure Written where
  files : Files
  output : String := ""
  errors : String := ""

/-- What comes of writing a text to a file. -/
def write (files : Files) (path text : String) : Except FileFault Written := do
  if pathLimit < path.utf8ByteSize then .error .tooLong
  match outerOfSlashed? path with
  | some outer =>
    match ← files.locate outer with
    | .inside l => .error ((files.barrier? l).getD .directory)
    | .device _ => .error .notDirectory
    | .outside => .error .missing
  | none =>
    match ← files.locate path with
    | .inside l =>
      if files.isDirectory l then .error .directory
      else .ok { files := ⟨putText l text files.entries⟩ }
    | .device .full => .error .noRoom
    | .device .output => .ok { files, output := text }
    | .device .errors => .ok { files, errors := text }
    | .device _ | .outside => .ok { files }

end Files

end Remap
