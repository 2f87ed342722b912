import TableDdl.Settings.FileChoice
import TableDdl.Text.Digit

/-!
# Invocations

The arguments of the command line are read in two steps. The program itself knows the option for
help only and hands everything behind the name of a command over to that command. A command has
options with values and one argument, which may be left out. Long options may be shortened as
long as they stay unambiguous, and may hold their value behind an equals sign. What a command
cannot make use of is refused at the very end.
-/

namespace TableDdl.Cli

/-- The commands of the program. -/
inductive Command where
  | validate
  | create
  | drop
  deriving DecidableEq, Repr

/-- The name of a command. -/
def Command.label : Command → String
  | .validate => "validate"
  | .create => "create"
  | .drop => "drop"

/-- All commands, in the order in which they are listed. -/
def commands : List Command := [.validate, .create, .drop]

/-- The options that the program or a command knows. -/
inductive Switch where
  | help
  | tablePrefix
  | config
  | collate
  deriving DecidableEq, Repr

namespace Switch

/-- The ways to write an option. -/
def spellings : Switch → List String
  | .help => ["-h", "--help"]
  | .tablePrefix => ["--prefix"]
  | .config => ["--config"]
  | .collate => ["--collate"]

/-- Whether the option has a value. -/
def takesValue (o : Switch) : Bool :=
  o != .help

end Switch

/-- Who reads the arguments: the program itself, or a command. -/
abbrev Reader := Option Command

/-- The options of the program or of a command. -/
def options : Reader → List Switch
  | none => [.help]
  | some .create => [.help, .tablePrefix, .config, .collate]
  | some _ => [.help, .tablePrefix, .config]

/-- An argument as it is written, with the option that it names and the value that it holds: the
spelling of the option in full, and the value. -/
structure OptionUse where
  option : Switch
  spelling : String
  value : Option String := none
  deriving DecidableEq, Repr

/-- What an argument is taken for. -/
inductive Role where
  | argument
  /-- The first `--`; nothing behind it is an option. -/
  | separator
  | option (use : OptionUse)
  | unknownOption
  deriving DecidableEq, Repr

/-- Why a command line is refused. -/
inductive UsageError where
  | ambiguous (argument : String) (candidates : List String)
  | valueMissing (option : Switch)
  | valueIgnored (option : Switch) (value : String)
  | unknownCommand (name : String)
  | commandMissing
  | unrecognized (arguments : List String)
  deriving DecidableEq, Repr

/-- The spellings of all options of a reader. -/
def spelledOptions (reader : Reader) : List (Switch × String) :=
  (options reader).flatMap fun o => o.spellings.map fun s => (o, s)

/-- Whether an argument is a negative number. -/
def isNegativeNumber (cs : List Char) : Bool :=
  let isDigit := fun c => (Text.digitValue? c).isSome
  let cs := if cs.getLast? = some '\n' then cs.dropLast else cs
  match cs with
  | '-' :: rest =>
    (!rest.isEmpty && rest.all isDigit) ||
      match rest.dropWhile isDigit with
      | '.' :: fraction => !fraction.isEmpty && fraction.all isDigit
      | _ => false
  | _ => false

/-- Divide an argument at its first equals sign. -/
def splitValue (cs : List Char) : List Char × Option (List Char) :=
  match cs.dropWhile (· ≠ '=') with
  | [] => (cs, none)
  | _ :: value => (cs.takeWhile (· ≠ '='), some value)

/-- The uses of options that an argument may be a short form of. -/
def shortForms (reader : Reader) (cs : List Char) : List OptionUse :=
  match cs with
  | '-' :: '-' :: _ =>
    let (name, value) := splitValue cs
    (spelledOptions reader).filterMap fun (option, spelling) =>
      if name.isPrefixOf spelling.toList then
        some ⟨option, spelling, value.map String.ofList⟩
      else none
  | _ =>
    (spelledOptions reader).filterMap fun (option, spelling) =>
      if spelling.toList = cs.take 2 then
        some ⟨option, spelling, some (String.ofList (cs.drop 2))⟩
      else if cs.isPrefixOf spelling.toList then some ⟨option, spelling, none⟩
      else none

/-- The use of an option that is written in full, on its own or with a value behind an equals
sign. -/
def fullForm? (reader : Reader) (cs : List Char) : Option OptionUse :=
  let (name, value) := splitValue cs
  match (spelledOptions reader).find? fun (_, spelling) => spelling.toList = cs with
  | some (option, spelling) => some { option, spelling }
  | none =>
    match value, (spelledOptions reader).find? fun (_, spelling) => spelling.toList = name with
    | some value, some (option, spelling) =>
      some ⟨option, spelling, some (String.ofList value)⟩
    | _, _ => none

/-- What an argument is taken for on its own. -/
def roleOf (reader : Reader) (argument : String) : Except UsageError Role :=
  let cs := argument.toList
  match cs with
  | '-' :: _ :: _ =>
    match fullForm? reader cs with
    | some use => .ok (.option use)
    | none =>
      match shortForms reader cs with
      | [use] => .ok (.option use)
      | [] => .ok (if isNegativeNumber cs || cs.contains ' ' then .argument else .unknownOption)
      | uses => .error (.ambiguous argument (uses.map (·.spelling)))
  | _ => .ok .argument

/-- What the arguments are taken for. -/
def roles (reader : Reader) : List String → Except UsageError (List (Role × String))
  | [] => .ok []
  | argument :: rest =>
    if argument = "--" then
      .ok ((.separator, argument) :: rest.map fun other => (.argument, other))
    else do
      let role ← roleOf reader argument
      return (role, argument) :: (← roles reader rest)

/-- What a command is asked to do. -/
structure Invocation where
  command : Command
  schemaPath : Option Path := none
  tablePrefix : Option String := none
  config : FileChoice := .usual
  collation : Option String := none
  deriving DecidableEq, Repr

/-- What a command line amounts to. -/
inductive Request where
  | run (invocation : Invocation)
  | help (reader : Reader)
  | refused (reader : Reader) (error : UsageError)
  deriving DecidableEq, Repr

/-- Ask for help by the letters behind a short option, which are further short options: all of them
have to ask for help. What follows the last one that does is the value that is refused. -/
def askByLetters : List Char → Except UsageError Unit
  | [] => .error (.valueIgnored .help "")
  | ['h'] => .ok ()
  | 'h' :: rest => askByLetters rest
  | letters => .error (.valueIgnored .help (String.ofList letters))

/-- Ask for help by an option. A long option refuses a value. -/
def askHelp (use : OptionUse) : Except UsageError Unit :=
  match use.value with
  | none => .ok ()
  | some value =>
    if "--".toList.isPrefixOf use.spelling.toList then .error (.valueIgnored .help value)
    else askByLetters value.toList

/-- Note the value of an option. Two dashes stand for no value at all: nothing is put in front of
names, there is no collation, and the settings file is the usual one, which has to be there. -/
def Invocation.set (i : Invocation) (o : Switch) (value : String) : Invocation :=
  let given := if value = "--" then "" else value
  match o with
  | .help => i
  | .tablePrefix => { i with tablePrefix := some given }
  | .config =>
    { i with config := if value = "--" then .required else .named (Path.ofText value) }
  | .collate => { i with collation := some given }

/-- How far a command has read its arguments: what it is asked to do, whether its own argument
is used up, and what it has no use for. -/
structure CommandReader where
  invocation : Invocation
  used : Bool := false
  unused : List String := []

namespace CommandReader

/-- Take an argument as the one of the command, or as one that it has no use for. -/
def takeArgument (r : CommandReader) (argument : String) : CommandReader :=
  if r.used then { r with unused := r.unused ++ [argument] }
  else
    { r with used := true
             invocation := { r.invocation with schemaPath := some (Path.ofText argument) } }

/-- Read the arguments of a command in their roles. A separator is used up along with the
argument of the command next to it, or without one at the end. -/
def read (r : CommandReader) : List (Role × String) → Except UsageError (Option CommandReader)
  | [] => .ok (some r)
  | (.argument, argument) :: (.separator, mark) :: rest =>
    if r.used then ((r.takeArgument argument).takeArgument mark).read rest
    else (r.takeArgument argument).read rest
  | (.argument, argument) :: rest => (r.takeArgument argument).read rest
  | (.separator, mark) :: (.argument, argument) :: rest =>
    if r.used then ((r.takeArgument mark).takeArgument argument).read rest
    else (r.takeArgument argument).read rest
  | (.separator, mark) :: rest =>
    if r.used then (r.takeArgument mark).read rest else { r with used := true }.read rest
  | (.unknownOption, argument) :: rest => { r with unused := r.unused ++ [argument] }.read rest
  | (.option use, _) :: rest =>
    if use.option.takesValue then
      match use.value, rest with
      | some value, rest => { r with invocation := r.invocation.set use.option value }.read rest
      | none, (.argument, value) :: rest =>
        { r with invocation := r.invocation.set use.option value }.read rest
      | none, _ => .error (.valueMissing use.option)
    else do
      askHelp use
      return none

end CommandReader

/-- Read the arguments of a command; `unused` is what the program had no use for before it. -/
def readCommand (command : Command) (unused arguments : List String) : Request :=
  let result := do
    let rs ← roles (some command) arguments
    CommandReader.read { invocation := { command } } rs
  match result with
  | .error e => .refused (some command) e
  | .ok none => .help (some command)
  | .ok (some r) =>
    let rest := unused ++ r.unused
    if rest.isEmpty then .run r.invocation else .refused none (.unrecognized rest)

/-- Read the arguments of the program in their roles; `unused` is what it had no use for so
far. -/
def readProgram (unused : List String) : List (Role × String) → Request
  | [] => .refused none .commandMissing
  | (.option use, _) :: _ =>
    match askHelp use with
    | .ok () => .help none
    | .error e => .refused none e
  | (.unknownOption, argument) :: rest => readProgram (unused ++ [argument]) rest
  | (.separator, _) :: [] => .refused none .commandMissing
  | (.separator, mark) :: _ => .refused none (.unknownCommand mark)
  | (.argument, name) :: rest =>
    match commands.find? (·.label = name) with
    | some command => readCommand command unused (rest.map (·.2))
    | none => .refused none (.unknownCommand name)

/-- Read a command line. -/
def readArguments (arguments : List String) : Request :=
  match roles none arguments with
  | .error e => .refused none e
  | .ok rs => readProgram [] rs

end TableDdl.Cli
