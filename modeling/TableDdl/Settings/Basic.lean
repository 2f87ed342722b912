import TableDdl.Settings.FileChoice
import TableDdl.Settings.Ini
import TableDdl.Settings.Substitution

/-!
# Settings

What puts a word in front of the names of tables, which collation they have, and where their
descriptions are. A setting is taken from the first of three places that has it: what is asked
for explicitly, the environment, and the settings file.
-/

namespace TableDdl

/-- The variables of the environment. -/
abbrev Environment := String → Option String

/-- Why settings are refused. -/
inductive SettingsError where
  | notFound (path : Path)
  | invalid (path : Path) (error : Settings.IniError)
  | noSection (path : Path)
  deriving DecidableEq, Repr

namespace Settings

/-- The section of a settings file that is read. -/
def sectionName : String := "tablebuilder"

/-- The settings file that is read if no other is asked for. -/
def defaultFile : Path := Path.ofText "tablebuilder.cfg"

/-- The variable that names the settings file. -/
def fileVariable : String := "TABLEBUILDER_CONFIG"

/-- The variable for what is put in front of the names of tables. -/
def prefixVariable : String := "TABLEBUILDER_PREFIX"

/-- The variable for the collation. -/
def collationVariable : String := "TABLEBUILDER_COLLATE"

/-- The variable for where the descriptions are. -/
def schemaPathVariable : String := "TABLEBUILDER_SCHEMA_PATH"

/-- The variables that matter for the settings. -/
def variableNames : List String :=
  [fileVariable, prefixVariable, collationVariable, schemaPathVariable]

end Settings

/-- The text of the error. -/
def SettingsError.message : SettingsError → String
  | .notFound path => "Config file not found: " ++ path.text
  | .invalid path error => "Invalid config file " ++ path.text ++ ": " ++ error.message
  | .noSection path => "Section [" ++ Settings.sectionName ++ "] not found in " ++ path.text

namespace Settings

/-- The settings file, and whether it was asked for. -/
def filePath (env : Environment) (choice : FileChoice) : Path × Bool :=
  match choice.path?, env fileVariable with
  | some path, _ => (path, true)
  | none, some text => (Path.ofText text, true)
  | none, none => (defaultFile, choice.isAsked)

/-- The value of an option as it is written in the file. -/
def rawValue (lines : List String) : String :=
  Text.stripEnd ("\n".intercalate lines)

/-- The options of a section, and those for all sections that it does not have itself. -/
def effectiveOptions (sections : List IniSection) (own : IniSection) : List (String × String) :=
  let common := ((sections.find? (·.name = defaultSection)).map (·.options)).getD []
  let inherited := common.filter fun (name, _) => !own.options.any (·.1 = name)
  (own.options ++ inherited).map fun (name, lines) => (name, rawValue lines)

/-- The options with their values put together. -/
def expandedOptions (options : List (String × String)) :
    Except Fault (List (String × String)) :=
  options.mapM fun (option, raw) =>
    let s : Substitution := { sectionName, option, raw, get? := fun name => options.lookup name }
    match s.value with
    | .ok value => .ok (option, Text.strip value)
    | .error e => .error (.substitution e)

/-- The options of the section of a settings file. -/
def sectionOptions (path : Path) (text : FileText) :
    Attempt SettingsError (List (String × String)) := do
  let sections ← (readIni path text).mapError (·.mapReason (.invalid path))
  match sections.find? (·.name = sectionName) with
  | none => refuse (.noSection path)
  | some own => expandedOptions (effectiveOptions sections own)

/-- The options of the settings file. There are none if the file is missing and was not asked
for, and a directory is read as an empty file. -/
def fileOptions (files : Files) (env : Environment) (choice : FileChoice) :
    Attempt SettingsError (List (String × String)) :=
  let (path, explicit) := filePath env choice
  match files path with
  | .missing => if explicit then refuse (.notFound path) else .ok []
  | .nameTooLong => .error (.fault (.nameTooLong path.text))
  | .directory _ => sectionOptions path (FileText.ofLines [])
  | .file bytes => sectionOptions path (FileText.ofLines bytes)

end Settings

/-- What is asked for explicitly. -/
structure Overrides where
  tablePrefix : Option String := none
  collation : Option String := none
  schemaPath : Option String := none
  file : FileChoice := .usual
  deriving Repr

/-- The settings that are in force. -/
structure Settings where
  tablePrefix : Option String := none
  collation : Option String := none
  schemaPath : String := "schema"
  deriving DecidableEq, Repr

namespace Settings

/-- A setting from the first place that has it. -/
def resolve (options : List (String × String)) (env : Environment) (asked : Option String)
    (variableName option : String) : Option String :=
  asked.or ((env variableName).or (options.lookup option))

/-- The settings that are in force. An empty path of descriptions counts as none. -/
def load (files : Files) (env : Environment) (asked : Overrides) :
    Attempt SettingsError Settings := do
  let options ← fileOptions files env asked.file
  let schemaPath := resolve options env asked.schemaPath schemaPathVariable "schema_path"
  return {
    tablePrefix := resolve options env asked.tablePrefix prefixVariable "prefix"
    collation := resolve options env asked.collation collationVariable "collate"
    schemaPath := (schemaPath.filter (· ≠ "")).getD "schema" }

end Settings

end TableDdl
