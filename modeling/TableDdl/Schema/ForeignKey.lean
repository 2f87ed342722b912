import TableDdl.Value.Text

/-!
# Foreign keys

A foreign key ties a column to a column of another table. What it refers to, and the actions on
update and on delete, may be left open.
-/

namespace TableDdl

/-- The actions that a foreign key may take. -/
inductive ReferentialAction where
  | cascade
  | setNull
  | restrict
  | noAction
  deriving DecidableEq, Repr

/-- The action as it is written in a statement. -/
def ReferentialAction.sql : ReferentialAction → String
  | .cascade => "CASCADE"
  | .setNull => "SET NULL"
  | .restrict => "RESTRICT"
  | .noAction => "NO ACTION"

/-- A foreign key; null stands for what is left open. -/
structure ForeignKey where
  keyName : Value
  column : Value
  referenceTable : Value := .null
  referenceColumn : Value := .null
  onUpdate : Value := .null
  onDelete : Value := .null
  deriving Repr, Inhabited

/-- An edit of a foreign key. -/
inductive ForeignKeyEdit where
  | referenceTable (table : Value)
  | referenceColumn (column : Value)
  | onUpdate (action : Value)
  | onDelete (action : Value)
  deriving Repr

namespace ForeignKey

/-- A foreign key of a column; without a name of its own it is named after the column. -/
def of (column keyName : Value) : Except Fault ForeignKey := do
  if keyName.isTruthy then return { keyName, column }
  else return { keyName := .str ("fk_" ++ (← column.text)), column }

/-- The foreign key after an edit. -/
def edit (fk : ForeignKey) : ForeignKeyEdit → ForeignKey
  | .referenceTable table => { fk with referenceTable := table }
  | .referenceColumn column => { fk with referenceColumn := column }
  | .onUpdate action => { fk with onUpdate := action }
  | .onDelete action => { fk with onDelete := action }

/-- The foreign key after a list of edits. -/
def editAll (fk : ForeignKey) (edits : List ForeignKeyEdit) : ForeignKey :=
  edits.foldl edit fk

/-- Whether both the table and the column that it refers to are given. -/
def isResolved (fk : ForeignKey) : Bool :=
  fk.referenceTable.isTruthy && fk.referenceColumn.isTruthy

end ForeignKey

end TableDdl
