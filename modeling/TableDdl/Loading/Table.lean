import TableDdl.Loading.Fields
import TableDdl.Schema.Basic

/-!
# Reading a table description

A table description is a mapping with the name of the table and lists of descriptions of its
columns, index entries and foreign keys. Parts are read in their order, and the first that is
refused decides.
-/

namespace TableDdl.Loading

/-- The kind of an index that a lower-case word names. -/
def kindOfWord? (word : String) : Option IndexKind :=
  match word with
  | "plain" => some .plain
  | "unique" => some .unique
  | "fulltext" => some .fulltext
  | "full_text" => some .fulltext
  | "primary" => some .primary
  | _ => none

/-- Whether a field that is true or false counts as true. -/
def flag (entries : List (Value × Value)) (name : String) : Bool :=
  (Value.field entries name).isTruthy

/-- The text of a field, if it has one. -/
def textOf (field : Option Value) : Except Fault (Option String) :=
  field.mapM Value.text

/-- The column of a description under a name that is given. -/
def columnNamed (entries : List (Value × Value)) (name : Value) : Attempt LoadError Column := do
  let type ← textOf (Value.field entries "type").given?
  let length ← size? entries .length name
  let precision ← size? entries .precision name
  let defaultText ← textOf (Value.field entries "default").nonNull?
  return {
    name
    type
    length
    precision
    nullable := flag entries "nullable"
    defaultText
    isUnsigned := flag entries "unsigned"
    autoIncrement := flag entries "auto_increment" }

/-- Add the column that a value describes. -/
def addColumn (s : Schema) (v : Value) : Attempt LoadError Schema := do
  let entries ← description .column v
  match (Value.field entries "name").given? with
  | none => do refuse (.missingName (← s.tableName))
  | some name => do
    let key ← name.key
    let column ← columnNamed entries name
    return { s with columns := s.columns.insert key name column }

/-- Add the index entry that a value describes. -/
def addIndex (s : Schema) (v : Value) : Attempt LoadError Schema := do
  let entries ← description .index v
  match (Value.field entries "column").given? with
  | none => do refuse (.missingColumn .index (← s.tableName))
  | some column => do
    let word := Text.lower (← ((Value.field? entries "kind").getD (.str "plain")).text)
    match kindOfWord? word with
    | none => refuse (.unknownKind word (← column.text))
    | some kind =>
      let entry ← Index.of column (Value.field entries "key_name")
      return { s with indexes := s.indexes ++ [{ entry with kind }] }

/-- Add the foreign key that a value describes. -/
def addForeignKey (s : Schema) (v : Value) : Attempt LoadError Schema := do
  let entries ← description .foreignKey v
  match (Value.field entries "column").given? with
  | none => do refuse (.missingColumn .foreignKey (← s.tableName))
  | some column => do
    let entry ← ForeignKey.of column (Value.field entries "key_name")
    let fk := { entry with
      referenceTable := (Value.field entries "reference_table").orElse .null
      referenceColumn := (Value.field entries "reference_column").orElse .null
      onUpdate := Value.field entries "on_update"
      onDelete := Value.field entries "on_delete" }
    return { s with foreignKeys := s.foreignKeys ++ [fk] }

/-- Add the parts that a value goes through, one after the other. -/
def addParts (add : Schema → Value → Attempt LoadError Schema) (s : Schema) (v : Value) :
    Attempt LoadError Schema := do
  let parts ← elements v
  parts.foldlM add s

/-- The schema that a value describes. -/
def table (v : Value) : Attempt LoadError Schema := do
  let entries ← description .table v
  match (Value.field entries "table").given? with
  | none => refuse .missingTable
  | some name =>
    let s : Schema :=
      { baseName := name, tablePrefix := (Value.field entries "prefix").orElse .null }
    let s ← addParts addColumn s (Value.field entries "columns")
    let s ← addParts addIndex s (Value.field entries "indexes")
    addParts addForeignKey s (Value.field entries "foreign_keys")

end TableDdl.Loading
