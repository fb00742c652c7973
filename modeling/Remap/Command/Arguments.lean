/-!
# Arguments

What a command line asks for. Every option takes a value, in the same argument or in the next one;
an option is given at most once, and its value is not empty. Arguments are read from left to
right: the first one that asks for help or cannot be read settles the matter.
-/

namespace Remap

/-- What there is help about. -/
inductive Topic
  | program | map | check | help
  deriving DecidableEq, Repr

/-- What is to be done with files. -/
inductive Command
  /-- A source document is mapped onto a target document. -/
  | map (mapping source : String) (target output : Option String)
  /-- A mapping is examined. -/
  | check (mapping : String)
  deriving DecidableEq, Repr

/-- What a command line asks for. -/
inductive Invocation
  | run (command : Command)
  | help (topic : Topic)
  | version
  /-- It cannot be read. -/
  | misuse
  deriving DecidableEq, Repr

namespace Invocation

/-- An argument, taken apart. -/
inductive Argument
  | word (name : String) (value : Option String)
  | letter (c : Char) (tail : List Char)
  /-- Two hyphens: no option comes after them. -/
  | stop
  | plain
  deriving DecidableEq, Repr

/-- Takes an argument apart; a single hyphen is a plain one. -/
def Argument.ofText (s : String) : Argument :=
  match s.toList with
  | '-' :: '-' :: cs =>
    let name := String.ofList (cs.takeWhile (· != '='))
    match cs.dropWhile (· != '=') with
    | [] => if cs.isEmpty then .stop else .word name none
    | _ :: value => .word name (some (String.ofList value))
  | '-' :: c :: tail => .letter c tail
  | _ => .plain

/-- Options: their letters and words. -/
abbrev Options := List (Char × String)

/-- The options of a mapping. -/
def mapOptions : Options := [('m', "mapping"), ('s', "source"), ('t', "target"), ('o', "output")]

/-- The options of an examination. -/
def checkOptions : Options := [('m', "mapping")]

/-- The letter of the option that an argument gives, and the value in the same argument. -/
def optionOf (options : Options) (topic : Topic) (s : String) :
    Except Invocation (Char × Option String) :=
  match Argument.ofText s with
  | .word name value =>
    match options.find? fun option => option.2 == name with
    | some (letter, _) => .ok (letter, value)
    | none => .error (if name == "help" && value.isNone then .help topic else .misuse)
  | .letter c tail =>
    if options.any fun option => option.1 == c then
      match tail with
      | [] => .ok (c, none)
      | '=' :: value => .ok (c, some (String.ofList value))
      | value => .ok (c, some (String.ofList value))
    else .error (if c == 'h' then .help topic else .misuse)
  | .stop => .error .misuse
  | .plain => .error .misuse

/-- The values of options, by letter. -/
abbrev Values := List (Char × String)

/-- The value of an option. -/
def Values.get? (values : Values) (letter : Char) : Option String :=
  (values.find? fun entry => entry.1 == letter).map (·.2)

/-- One more value. -/
def Values.add (values : Values) (letter : Char) (value : String) : Except Invocation Values :=
  if value.isEmpty || (values.get? letter).isSome then .error .misuse
  else .ok ((letter, value) :: values)

/-- The values of the options among some arguments, or what they ask for instead. -/
def readValues (options : Options) (topic : Topic) (values : Values) :
    List String → Except Invocation Values
  | [] => .ok values
  | ["--"] => .ok values
  | s :: rest =>
    match optionOf options topic s with
    | .error other => .error other
    | .ok (letter, some value) =>
      match values.add letter value with
      | .error other => .error other
      | .ok values => readValues options topic values rest
    | .ok (letter, none) =>
      match rest with
      | [] => .error .misuse
      | value :: rest =>
        if Argument.ofText value != .plain then .error .misuse
        else
          match values.add letter value with
          | .error other => .error other
          | .ok values => readValues options topic values rest

/-- What the arguments of a command ask for, given what its values mean. -/
def readCommand (options : Options) (topic : Topic) (command? : Values → Option Command)
    (args : List String) : Invocation :=
  match readValues options topic [] args with
  | .error other => other
  | .ok values =>
    match command? values with
    | some command => .run command
    | none => .misuse

/-- The mapping that values describe. -/
def mapCommand? (values : Values) : Option Command := do
  let mapping ← values.get? 'm'
  let source ← values.get? 's'
  return .map mapping source (values.get? 't') (values.get? 'o')

/-- The examination that values describe. -/
def checkCommand? (values : Values) : Option Command := do
  let mapping ← values.get? 'm'
  return .check mapping

/-- What help is asked about. -/
def readTopic : List String → Invocation
  | [] => .help .program
  | ["map"] => .help .map
  | ["check"] => .help .check
  | ["help"] => .help .help
  | _ => .misuse

/-- What a command line asks for. -/
def read : List String → Invocation
  | "map" :: args => readCommand mapOptions .map mapCommand? args
  | "check" :: args => readCommand checkOptions .check checkCommand? args
  | "help" :: args => readTopic args
  | s :: _ =>
    match Argument.ofText s with
    | .word "help" none => .help .program
    | .word "version" none => .version
    | .letter 'h' _ => .help .program
    | .letter 'V' _ => .version
    | _ => .misuse
  | [] => .misuse

end Invocation

end Remap
