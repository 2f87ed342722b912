import TableDdl.Cli.Invocation
import TableDdl.Text.Quoted

/-!
# Help

The usage of the program and of its commands, their help, and the texts of usage errors, laid out
for a terminal of eighty columns.
-/

namespace TableDdl.Cli

/-- The columns that a text may fill. -/
def textWidth : Nat := 78

/-- The name of the program, followed by that of the command. -/
def programName : Reader → String
  | none => "tablebuilder"
  | some command => "tablebuilder " ++ command.label

/-- The name of an option's value. -/
def Switch.valueName? : Switch → Option String
  | .help => none
  | .tablePrefix => some "PREFIX"
  | .config => some "CONFIG"
  | .collate => some "COLLATE"

/-- What an option is for. -/
def Switch.purpose : Switch → String
  | .help => "show this help message and exit"
  | .tablePrefix => "Table name prefix"
  | .config => "Path to tablebuilder.cfg"
  | .collate => "Collation appended to CREATE TABLE"

/-- What a command does. -/
def Command.purpose : Command → String
  | .validate => "Validate schema files"
  | .create => "Print CREATE TABLE statements"
  | .drop => "Print DROP TABLE statements"

/-- An option followed by the name of its value. -/
def withValueName (s : Switch) (spelling : String) : String :=
  match s.valueName? with
  | none => spelling
  | some name => spelling ++ " " ++ name

/-- The parts of a usage that stand for options. -/
def optionParts (reader : Reader) : List String :=
  (options reader).map fun s => "[" ++ withValueName s (s.spellings.headD "") ++ "]"

/-- The names of the commands as they stand for each other. -/
def commandChoice : String :=
  "\x7b" ++ ",".intercalate (commands.map (·.label)) ++ "\x7d"

/-- The parts of a usage that stand for arguments. -/
def argumentParts : Reader → List String
  | none => [commandChoice, "..."]
  | some _ => ["[schema_path]"]

/-- Fill lines with parts: `length` is what the current line holds already, and later lines
begin with the given indentation. -/
def fillLines (indent : String) : Nat → List String → List String → List String
  | _, line, [] => if line.isEmpty then [] else [" ".intercalate line.reverse]
  | length, line, part :: rest =>
    if length + 1 + part.length > textWidth ∧ !line.isEmpty then
      " ".intercalate line.reverse ::
        fillLines indent (indent.length - 1 + part.length + 1) [part] rest
    else fillLines indent (length + part.length + 1) (part :: line) rest

/-- What every usage begins with. -/
def usageMark : String := "usage: "

/-- The usage: on one line if it fits, and else with the arguments on lines of their own. -/
def usage (reader : Reader) : String :=
  let name := programName reader
  let line := " ".intercalate (name :: (optionParts reader ++ argumentParts reader))
  if usageMark.length + line.length ≤ textWidth then usageMark ++ line ++ "\n"
  else
    let indent := String.ofList (List.replicate (usageMark.length + name.length + 1) ' ')
    let first := fillLines indent (usageMark.length - 1) [] (name :: optionParts reader)
    let second := fillLines indent (indent.length - 1) [] (argumentParts reader)
    usageMark ++ ("\n" ++ indent).intercalate (first ++ second) ++ "\n"

/-- A row of a table of help: its indentation, what it is about, and what that is for. -/
structure HelpRow where
  indent : Nat
  subject : String
  purpose : Option String

/-- The rightmost column at which purposes begin. -/
def maxPurposeColumn : Nat := 24

/-- The column at which the purposes of all rows begin. -/
def purposeColumn (rows : List HelpRow) : Nat :=
  let widest := rows.foldl (fun n row => max n (row.indent + row.subject.length)) 0
  min (widest + 2) maxPurposeColumn

/-- A row of a table of help. -/
def HelpRow.text (row : HelpRow) (column : Nat) : String :=
  let start := List.replicate row.indent ' ' ++ row.subject.toList
  match row.purpose with
  | none => String.ofList start ++ "\n"
  | some purpose =>
    String.ofList (start ++ List.replicate (column - start.length) ' ') ++ purpose ++ "\n"

/-- The rows of the arguments. -/
def argumentRows : Reader → List HelpRow
  | none =>
    ⟨2, commandChoice, none⟩ :: commands.map fun c => ⟨4, c.label, some c.purpose⟩
  | some _ => [⟨2, "schema_path", some "YAML file or directory (default: config schema_path)"⟩]

/-- The rows of the options. -/
def optionRows (reader : Reader) : List HelpRow :=
  (options reader).map fun s =>
    ⟨2, ", ".intercalate (s.spellings.map (withValueName s)), some s.purpose⟩

/-- What the program is for. -/
def description : Reader → String
  | none => "Compile declarative table schemas into CREATE/DROP TABLE SQL\n\n"
  | some _ => ""

/-- The help of the program or of a command. -/
def help (reader : Reader) : String :=
  let arguments := argumentRows reader
  let options := optionRows reader
  let column := purposeColumn (arguments ++ options)
  let table := fun (rows : List HelpRow) => String.join (rows.map (·.text column))
  usage reader ++ "\n" ++ description reader ++ "positional arguments:\n" ++ table arguments ++
    "\noptions:\n" ++ table options

/-- The name of an option in errors. -/
def Switch.errorName (s : Switch) : String :=
  "/".intercalate s.spellings

/-- The text of a usage error. -/
def UsageError.message : UsageError → String
  | .ambiguous argument candidates =>
    "ambiguous option: " ++ argument ++ " could match " ++ ", ".intercalate candidates
  | .valueMissing s => "argument " ++ s.errorName ++ ": expected one argument"
  | .valueIgnored s value =>
    "argument " ++ s.errorName ++ ": ignored explicit argument " ++ Text.quoted value
  | .unknownCommand name =>
    "argument command: invalid choice: " ++ Text.quoted name ++ " (choose from " ++
      ", ".intercalate (commands.map fun c => Text.quoted c.label) ++ ")"
  | .commandMissing => "the following arguments are required: command"
  | .unrecognized arguments => "unrecognized arguments: " ++ " ".intercalate arguments

/-- What is printed for a usage error. -/
def usageComplaint (reader : Reader) (e : UsageError) : String :=
  usage reader ++ programName reader ++ ": error: " ++ e.message ++ "\n"

end TableDdl.Cli
