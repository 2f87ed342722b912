import TableDdl.Failure
import TableDdl.Schema.Column
import TableDdl.Schema.ForeignKey
import TableDdl.Schema.Index
import TableDdl.Schema.NameMap

/-!
# Schemas

A schema describes one table: its name, what is put in front of the name, its columns by name,
and its index entries and foreign keys in the order of their declaration.
-/

namespace TableDdl

/-- The description of one table. What is put in front of the name is null if nothing is. -/
structure Schema where
  baseName : Value
  tablePrefix : Value := .null
  columns : NameMap Column := NameMap.empty
  indexes : List Index := []
  foreignKeys : List ForeignKey := []
  deriving Inhabited

/-- Why a schema refuses a request about one of its columns. The column, and the table where the
refusal names it, are given by their texts. -/
inductive SchemaError where
  | notRemovable (tableName column : String)
  | notDefined (column : String)
  deriving DecidableEq, Repr

namespace SchemaError

/-- The text of the error. -/
def message : SchemaError → String
  | .notRemovable tableName column =>
    "Column '" ++ column ++ "' cannot be removed from '" ++ tableName ++ "', it is not defined"
  | .notDefined column => "Column with name '" ++ column ++ "' is not currently defined"

/-- The number of the error. -/
def code : SchemaError → Nat
  | .notRemovable .. => 1
  | .notDefined .. => 301

end SchemaError

namespace Schema

/-- Whether something is put in front of the name. -/
def hasPrefix (s : Schema) : Bool :=
  s.tablePrefix.isTruthy

/-- The name of the table with what is put in front of it. -/
def tableName (s : Schema) : Except Fault String := do
  let front ← if s.hasPrefix then s.tablePrefix.text else pure ""
  return front ++ (← s.baseName.text)

/-- Put a text in front of the name unless it is empty or the schema has something there. -/
def withDefaultPrefix (s : Schema) (tablePrefix : String) : Schema :=
  if tablePrefix = "" ∨ s.hasPrefix = true then s else { s with tablePrefix := .str tablePrefix }

/-- The column of a name. -/
def column (s : Schema) (name : Value) : Attempt SchemaError Column := do
  let key ← name.key
  match s.columns.find? key with
  | some c => return c
  | none => refuse (.notDefined (← name.text))

/-- Whether there is a column of the name. -/
def hasColumn (s : Schema) (name : Value) : Except Fault Bool := do
  let key ← name.key
  return s.columns.contains key

/-- The columns, in order. -/
def columnList (s : Schema) : List Column :=
  s.columns.items

/-- The names of the columns as they were first spelled, in order. -/
def columnNames (s : Schema) : List Value :=
  s.columns.spellings

/-- A one-line summary of the schema. -/
def summary (s : Schema) : Except Fault String := do
  let name ← s.tableName
  let columns ← (Value.list s.columnNames).literal
  return "Schema(" ++ Text.quoted name ++ ", columns=" ++ columns ++ ")"

/-- A default is put in front of the names of those that have nothing there. -/
theorem tableName_withDefaultPrefix (s : Schema) (tablePrefix : String) :
    (s.withDefaultPrefix tablePrefix).tableName =
      if s.hasPrefix then s.tableName else (tablePrefix ++ ·) <$> s.baseName.text := by
  by_cases empty : tablePrefix = "" <;> by_cases own : s.hasPrefix = true <;>
    cases named : s.baseName.text <;>
    simp_all [withDefaultPrefix, tableName, hasPrefix, pure, Except.pure, bind, Except.bind,
      Functor.map, Except.map]

end Schema

end TableDdl
