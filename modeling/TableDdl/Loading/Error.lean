import TableDdl.Failure

/-!
# Errors of loading

Why a table description, or a file of them, is refused.
-/

namespace TableDdl

/-- The parts that a table description is made of. -/
inductive Part where
  | table
  | column
  | index
  | foreignKey
  deriving DecidableEq, Repr

namespace Part

/-- The name of a part. -/
def label : Part → String
  | .table => "table"
  | .column => "column"
  | .index => "index"
  | .foreignKey => "foreign key"

/-- The fields that a part may have. -/
def fields : Part → List String
  | .table => ["table", "prefix", "description", "columns", "indexes", "foreign_keys"]
  | .column => ["name", "type", "length", "precision", "nullable", "default", "unsigned",
      "auto_increment"]
  | .index => ["column", "key_name", "kind"]
  | .foreignKey => ["column", "key_name", "reference_table", "reference_column", "on_update",
      "on_delete"]

end Part

/-- The sizes of a column. -/
inductive SizeField where
  | length
  | precision
  deriving DecidableEq, Repr

/-- The field of a size. -/
def SizeField.label : SizeField → String
  | .length => "length"
  | .precision => "precision"

/-- Where several tables are looked at together. -/
inductive Place where
  | file (path : String)
  | directory (path : String)
  deriving DecidableEq, Repr

/-- The name of a place. -/
def Place.label : Place → String
  | .file path => "file " ++ path
  | .directory path => "directory " ++ path

/-- Why a description is refused. Values are given by their texts. -/
inductive LoadError where
  | noSuchPath (path : String)
  | notYaml (path reason : String)
  | emptyFile (path : String)
  | notMapping (path : String)
  | duplicateTable (tableName : String) (place : Place)
  | notDescription (part : Part) (found : String)
  | unknownFields (part : Part) (names : List String)
  | missingTable
  | missingName (tableName : String)
  | missingColumn (part : Part) (tableName : String)
  | invalidSize (field : SizeField) (found column : String)
  | unknownKind (kind column : String)
  deriving DecidableEq, Repr

/-- The kinds of indexes that a description may name, in the order in which they are listed. -/
def listedKinds : List String :=
  ["full_text", "fulltext", "plain", "primary", "unique"]

/-- The text of the error. -/
def LoadError.message : LoadError → String
  | .noSuchPath path => "Schema path does not exist: " ++ path
  | .notYaml path reason => "Invalid YAML in " ++ path ++ ": " ++ reason
  | .emptyFile path => "Empty YAML file: " ++ path
  | .notMapping path => "Expected a mapping at the top of " ++ path
  | .duplicateTable tableName place =>
    "Duplicate table name '" ++ tableName ++ "' found in " ++ place.label
  | .notDescription part found =>
    "Expected a " ++ part.label ++ " mapping, got: " ++ found
  | .unknownFields part names =>
    "Unknown field(s) in " ++ part.label ++ " definition: " ++ ", ".intercalate names
  | .missingTable => "Table definition missing 'table' field"
  | .missingName tableName =>
    "Column definition missing 'name' field in table '" ++ tableName ++ "'"
  | .missingColumn .foreignKey tableName =>
    "Foreign key definition missing 'column' field in table '" ++ tableName ++ "'"
  | .missingColumn _ tableName =>
    "Index definition missing 'column' field in table '" ++ tableName ++ "'"
  | .invalidSize field found column =>
    "Invalid " ++ field.label ++ " '" ++ found ++ "' for column '" ++ column ++
      "': expected an integer"
  | .unknownKind kind column =>
    "Unknown index kind '" ++ kind ++ "' on column '" ++ column ++
      "', expected one of: " ++ ", ".intercalate listedKinds

end TableDdl
