import TableDdl.Files.Basic
import TableDdl.Loading.Table
import TableDdl.Yaml.Document

/-!
# Loading files

A file describes one table, or several in a list. A directory describes the tables of its YAML
files, in the order of their names. No two tables of a file, or of a directory, have one name,
what their descriptions put in front included; a prefix that is given for all tables is put in
front of those that have none only after that.
-/

namespace TableDdl.Loading

/-- Refuse schemas of which two have one name. -/
def checkDistinct (place : Place) (schemas : List Schema) : Attempt LoadError Unit :=
  go [] schemas
where
  /-- Go on after the given names. -/
  go (seen : List String) : List Schema → Attempt LoadError Unit
    | [] => .ok ()
    | s :: rest => do
      let tableName ← s.tableName
      if seen.contains tableName then refuse (.duplicateTable tableName place)
      else go (tableName :: seen) rest

/-- The value of a file that holds a YAML document. -/
def fileValue (path : Path) (bytes : List UInt8) : Attempt LoadError Value :=
  (Yaml.read bytes).mapError (·.mapReason fun problem => .notYaml path.text problem.message)

/-- The schemas of a file. -/
def file (path : Path) (bytes : List UInt8) : Attempt LoadError (List Schema) := do
  match ← fileValue path bytes with
  | .null => refuse (.emptyFile path.text)
  | .map entries =>
    match Value.field? entries "tables" with
    | none => return [← table (.map entries)]
    | some tables => do
      let schemas ← (← elements tables).mapM table
      checkDistinct (.file path.text) schemas
      return schemas
  | _ => refuse (.notMapping path.text)

/-- Whether a name is that of a YAML file. -/
def isYamlName (name : String) : Bool :=
  ".yaml".toList.isSuffixOf name.toList

/-- The schemas of an entry of a directory, which is opened without a look at what it is. -/
def member (files : Files) (path : Path) : Attempt LoadError (List Schema) :=
  match files path with
  | .file bytes => file path bytes
  | .directory _ => .error (.fault (.isDirectory path.text))
  | .missing => .error (.fault (.noSuchFile path.text))
  | .nameTooLong => .error (.fault (.nameTooLong path.text))

/-- The schemas of a directory. -/
def directory (files : Files) (path : Path) (names : List String) :
    Attempt LoadError (List Schema) := do
  let listed := (names.filter isYamlName).mergeSort Text.noLaterThan
  let schemas ← listed.mapM fun name => member files (path.join name)
  checkDistinct (.directory path.text) schemas.flatten
  return schemas.flatten

/-- The schemas of what stands at a path. -/
def load (files : Files) (path : Path) (tablePrefix : Option String) :
    Attempt LoadError (List Schema) := do
  let schemas ←
    match files path with
    | .file bytes => file path bytes
    | .directory names => directory files path names
    | .missing => refuse (.noSuchPath path.text)
    | .nameTooLong => .error (.fault (.nameTooLong path.text))
  return schemas.map (·.withDefaultPrefix (tablePrefix.getD ""))

end TableDdl.Loading
