import TableDdl.Schema.Basic

/-!
# Drafts

A draft is a schema that is still being written. Every column, index entry and foreign key that
was ever declared keeps its place among its kind, and that place is its identity: an edit names
the part that it changes by its place, whether or not the part still belongs to the schema. A
column that was replaced or removed can still be edited, without effect on the schema.
-/

namespace TableDdl

/-- A schema that is still being written. -/
structure Draft where
  baseName : Value
  tablePrefix : Value := .null
  /-- Every column ever declared, in the order of the declarations. -/
  columns : List Column := []
  /-- The places of the columns that belong to the schema. -/
  names : NameMap Nat := NameMap.empty
  indexes : List Index := []
  foreignKeys : List ForeignKey := []
  deriving Inhabited

namespace Draft

/-- The schema as it stands. -/
def schema (d : Draft) : Schema :=
  { baseName := d.baseName
    tablePrefix := d.tablePrefix
    columns := d.names.map fun place => (d.columns[place]?).getD default
    indexes := d.indexes
    foreignKeys := d.foreignKeys }

/-- The name of the table with what is put in front of it. -/
def tableName (d : Draft) : Except Fault String :=
  d.schema.tableName

/-- Set what is put in front of the name. -/
def setPrefix (d : Draft) (tablePrefix : Value) : Draft :=
  { d with tablePrefix }

/-- Declare a column; its place is the second result. -/
def declare (d : Draft) (name : Value) : Except Fault (Draft × Nat) := do
  let key ← name.key
  let place := d.columns.length
  return ({ d with columns := d.columns ++ [{ name }], names := d.names.insert key name place },
    place)

/-- The place of the column of a name. -/
def find (d : Draft) (name : Value) : Attempt SchemaError Nat := do
  let key ← name.key
  match d.names.find? key with
  | some place => return place
  | none => refuse (.notDefined (← name.text))

/-- Take a column out. -/
def remove (d : Draft) (name : Value) : Attempt SchemaError Draft := do
  let key ← name.key
  if d.names.contains key then
    return { d with names := d.names.erase key }
  else
    let column ← name.text
    refuse (.notRemovable (← d.tableName) column)

/-- Declare an index entry; its place is the second result. -/
def addIndex (d : Draft) (column keyName : Value) : Except Fault (Draft × Nat) := do
  let entry ← Index.of column keyName
  return ({ d with indexes := d.indexes ++ [entry] }, d.indexes.length)

/-- Declare a foreign key; its place is the second result. -/
def addForeignKey (d : Draft) (column keyName : Value) : Except Fault (Draft × Nat) := do
  let fk ← ForeignKey.of column keyName
  return ({ d with foreignKeys := d.foreignKeys ++ [fk] }, d.foreignKeys.length)

/-- Edit the column at a place. -/
def editColumn (d : Draft) (place : Nat) (e : ColumnEdit) : Draft :=
  { d with columns := d.columns.modify place (·.edit e) }

/-- Edit the index entry at a place. -/
def editIndex (d : Draft) (place : Nat) (e : IndexEdit) : Draft :=
  { d with indexes := d.indexes.modify place (·.edit e) }

/-- Edit the foreign key at a place. -/
def editForeignKey (d : Draft) (place : Nat) (e : ForeignKeyEdit) : Draft :=
  { d with foreignKeys := d.foreignKeys.modify place (·.edit e) }

@[simp] theorem tableName_schema (d : Draft) : d.schema.tableName = d.tableName := rfl

@[simp] theorem columnNames_schema (d : Draft) : d.schema.columnNames = d.names.spellings := by
  simp [schema, Schema.columnNames]

@[simp] theorem indexes_schema (d : Draft) : d.schema.indexes = d.indexes := rfl

@[simp] theorem foreignKeys_schema (d : Draft) : d.schema.foreignKeys = d.foreignKeys := rfl

end Draft

end TableDdl
