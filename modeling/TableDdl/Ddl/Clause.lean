import TableDdl.Ddl.Grouping
import TableDdl.Ddl.Literal

/-!
# Clauses

The clauses between the parentheses of a statement that creates a table: the columns, the
primary key, the other indexes and the foreign keys, in this order.
-/

namespace TableDdl

namespace Ddl

/-- Types that may have a length. -/
def sizedTypes : List String :=
  ["CHAR", "VARCHAR", "BINARY", "VARBINARY", "TEXT", "BLOB", "BIT", "TINYINT", "SMALLINT",
    "MEDIUMINT", "INT", "INTEGER", "BIGINT", "FLOAT", "DOUBLE", "DOUBLE PRECISION", "DECIMAL",
    "DEC", "DATETIME", "TIMESTAMP", "TIME"]

/-- Types that may have a precision beside the length. -/
def precisionTypes : List String :=
  ["FLOAT", "DOUBLE", "DOUBLE PRECISION", "DECIMAL", "DEC"]

/-- Types whose defaults are string literals. -/
def stringTypes : List String :=
  ["CHAR", "VARCHAR", "BINARY", "VARBINARY", "TEXT", "BLOB"]

/-- A type with its length and its precision, where it may have them and they are given. -/
def typeText (type : String) (length precision : Option Int) : Except Fault String := do
  match length with
  | none => return type
  | some n =>
    if type ∉ sizedTypes then return type
    else
      match precision.filter fun _ => type ∈ precisionTypes with
      | some p => return type ++ "(" ++ (← wholeText n) ++ "," ++ (← wholeText p) ++ ")"
      | none => return type ++ "(" ++ (← wholeText n) ++ ")"

/-- The default of a column of a type: a literal for strings, otherwise as it is written. -/
def defaultText (type : String) : Option String → String
  | none => ""
  | some text =>
    " DEFAULT " ++ (if type ∈ stringTypes then Literal.quote text else text)

/-- The words in front of an index of a kind. -/
def kindText : IndexKind → String
  | .plain => ""
  | .unique => "UNIQUE "
  | .fulltext => "FULLTEXT "
  | .primary => "PRIMARY "

/-- An action of a foreign key, if one is given. -/
def actionText (event : String) (action : Value) : Except Fault String := do
  if action.isTruthy then return " ON " ++ event ++ " " ++ (← action.text) else return ""

/-- Texts put together with commas, or the fault that one of them is no text. -/
def joinNames (values : List Value) : Except Fault String :=
  (texts 0 values).map fun names => ", ".intercalate names
where
  /-- The texts, the first of them at the given position. -/
  texts (position : Nat) : List Value → Except Fault (List String)
    | [] => .ok []
    | .str s :: rest => (texts (position + 1) rest).map (s :: ·)
    | v :: _ => .error (.notText position v.kindName)

end Ddl

/-- The clause of a column. -/
def Column.clause (c : Column) : Except Fault String := do
  let type := c.normalizedType
  let name ← c.name.text
  let sized ← Ddl.typeText type c.length c.precision
  return name ++ " " ++ sized ++
    (if c.isUnsigned then " UNSIGNED" else "") ++
    (if c.nullable then " NULL" else " NOT NULL") ++
    (if c.autoIncrement then " AUTO_INCREMENT" else "") ++
    Ddl.defaultText type c.defaultText

/-- The clause of an entry of the primary key. -/
def Index.primaryClause (i : Index) : Except Fault String := do
  return "PRIMARY KEY (" ++ (← i.column.text) ++ ")"

/-- The clause of an index. -/
def IndexGroup.clause (g : IndexGroup) : Except Fault String := do
  let columns ← Ddl.joinNames g.columns
  let keyName ← g.keyName.text
  return Ddl.kindText g.kind ++ "INDEX " ++ keyName ++ " (" ++ columns ++ ")"

/-- The clause of a foreign key. -/
def ForeignKey.clause (fk : ForeignKey) : Except Fault String := do
  let keyName ← fk.keyName.text
  let column ← fk.column.text
  let referenceTable ← fk.referenceTable.text
  let referenceColumn ← fk.referenceColumn.text
  let onUpdate ← Ddl.actionText "UPDATE" fk.onUpdate
  let onDelete ← Ddl.actionText "DELETE" fk.onDelete
  return "FOREIGN KEY " ++ keyName ++ "(" ++ column ++ ") REFERENCES " ++ referenceTable ++ "(" ++
    referenceColumn ++ ")" ++ onUpdate ++ onDelete

namespace Schema

/-- The clauses of the columns. -/
def columnClauses (s : Schema) : Except Fault (List String) :=
  s.columnList.mapM Column.clause

/-- The clauses of the primary key. -/
def primaryKeyClauses (s : Schema) : Except Fault (List String) :=
  (s.indexes.filter (·.isPrimary)).mapM Index.primaryClause

/-- The clauses of the other indexes. -/
def indexClauses (s : Schema) : Except Fault (List String) := do
  let groups ← s.indexGroups
  groups.mapM IndexGroup.clause

/-- The clauses of the foreign keys. -/
def foreignKeyClauses (s : Schema) : Except Fault (List String) :=
  s.foreignKeys.mapM ForeignKey.clause

/-- All clauses, in the order of a statement. -/
def clauses (s : Schema) : Except Fault (List String) := do
  let columns ← s.columnClauses
  let primaryKey ← s.primaryKeyClauses
  let indexes ← s.indexClauses
  let foreignKeys ← s.foreignKeyClauses
  return columns ++ primaryKey ++ indexes ++ foreignKeys

end Schema

end TableDdl
