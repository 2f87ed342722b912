import TableDdl.Schema.Basic

/-!
# Validation

What keeps a schema from being written out as a table: a column without a type, several primary
keys, an index entry or a foreign key on a column that is not there, a foreign key that does not
say what it refers to. Every check runs, and the issues are listed check by check.
-/

namespace TableDdl

/-- The kinds of issues. -/
inductive IssueKind where
  | columnMissingType
  | multiplePrimaryKeys
  | indexColumnMissing
  | foreignKeyColumnMissing
  | foreignKeyReferenceMissing
  deriving DecidableEq, Repr

/-- The name of a kind of issues. -/
def IssueKind.label : IssueKind → String
  | .columnMissingType => "column_missing_type"
  | .multiplePrimaryKeys => "multiple_primary_keys"
  | .indexColumnMissing => "index_column_missing"
  | .foreignKeyColumnMissing => "foreign_key_column_missing"
  | .foreignKeyReferenceMissing => "foreign_key_reference_missing"

/-- A defect of a schema, with what it concerns. -/
structure Issue where
  kind : IssueKind
  message : String
  column : Value := .null
  keyName : Value := .null
  count : Option Nat := none
  deriving Repr

namespace Issue

/-- A column has no type. -/
def missingType (c : Column) : Except Fault Issue := do
  let name ← c.name.text
  return {
    kind := .columnMissingType
    message := "Column \"" ++ name ++ "\" has no type defined"
    column := c.name }

/-- There are several primary keys. -/
def primaryKeys (count : Nat) : Issue :=
  { kind := .multiplePrimaryKeys
    message := toString count ++ " primary keys defined, only 1 is allowed"
    count := some count }

/-- An index entry is on a column that is not there. -/
def undefinedIndexColumn (i : Index) : Except Fault Issue := do
  let keyName ← i.keyName.text
  let column ← i.column.text
  return {
    kind := .indexColumnMissing
    message := "Index \"" ++ keyName ++ "\" references undefined column \"" ++ column ++ "\""
    column := i.column
    keyName := i.keyName }

/-- A foreign key is on a column that is not there. -/
def undefinedForeignKeyColumn (fk : ForeignKey) : Except Fault Issue := do
  let keyName ← fk.keyName.text
  let column ← fk.column.text
  return {
    kind := .foreignKeyColumnMissing
    message := "Foreign key \"" ++ keyName ++ "\" references undefined column \"" ++ column ++
      "\""
    column := fk.column
    keyName := fk.keyName }

/-- A foreign key does not say what it refers to. -/
def missingReference (fk : ForeignKey) : Except Fault Issue := do
  let keyName ← fk.keyName.text
  return {
    kind := .foreignKeyReferenceMissing
    message := "Foreign key \"" ++ keyName ++
      "\" requires both a reference table and a reference column"
    column := fk.column
    keyName := fk.keyName }

end Issue

namespace Schema

/-- The columns without a type. -/
def untypedColumns (s : Schema) : List Column :=
  s.columnList.filter fun c => c.normalizedType = ""

/-- The index entries of the primary key. -/
def primaryEntries (s : Schema) : List Index :=
  s.indexes.filter (·.isPrimary)

/-- The foreign keys that do not say what they refer to. -/
def unresolvedForeignKeys (s : Schema) : List ForeignKey :=
  s.foreignKeys.filter fun fk => !fk.isResolved

/-- The issues of the items whose column is not there. -/
def danglingIssues {α : Type} (s : Schema) (column : α → Value) (issue : α → Except Fault Issue) :
    List α → Except Fault (List Issue)
  | [] => .ok []
  | item :: rest => do
    let known ← s.hasColumn (column item)
    let found ← if known then pure [] else List.singleton <$> issue item
    return found ++ (← danglingIssues s column issue rest)

/-- The issues of the primary key: one if there are several entries. -/
def primaryKeyIssues (s : Schema) : List Issue :=
  if s.primaryEntries.length ≤ 1 then [] else [Issue.primaryKeys s.primaryEntries.length]

/-- The issues of a schema, check by check. -/
def issues (s : Schema) : Except Fault (List Issue) := do
  let untyped ← s.untypedColumns.mapM Issue.missingType
  let ofIndexes ← s.danglingIssues Index.column Issue.undefinedIndexColumn s.indexes
  let ofForeignKeys ←
    s.danglingIssues ForeignKey.column Issue.undefinedForeignKeyColumn s.foreignKeys
  let unresolved ← s.unresolvedForeignKeys.mapM Issue.missingReference
  return untyped ++ s.primaryKeyIssues ++ ofIndexes ++ ofForeignKeys ++ unresolved

end Schema

end TableDdl
