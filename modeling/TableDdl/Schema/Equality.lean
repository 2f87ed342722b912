import TableDdl.Schema.Basic

/-!
# Equality of descriptions

Two columns, two index entries, two foreign keys or two schemas are equal if they say the same,
where values count as equal if they amount to the same: the number one equals true.
-/

namespace TableDdl

/-- Whether two columns say the same. -/
def Column.equal (c d : Column) : Bool :=
  c.name.equal d.name && c.type = d.type && c.length = d.length && c.precision = d.precision &&
    c.nullable = d.nullable && c.defaultText = d.defaultText && c.isUnsigned = d.isUnsigned &&
    c.autoIncrement = d.autoIncrement

/-- Whether two index entries say the same. -/
def Index.equal (i j : Index) : Bool :=
  i.keyName.equal j.keyName && i.column.equal j.column && i.kind = j.kind

/-- Whether two foreign keys say the same. -/
def ForeignKey.equal (fk other : ForeignKey) : Bool :=
  fk.keyName.equal other.keyName && fk.column.equal other.column &&
    fk.referenceTable.equal other.referenceTable &&
    fk.referenceColumn.equal other.referenceColumn &&
    fk.onUpdate.equal other.onUpdate && fk.onDelete.equal other.onDelete

/-- Whether two lists have equal items at every place. -/
def listsEqual {α : Type} (equal : α → α → Bool) (xs ys : List α) : Bool :=
  xs.length = ys.length && (xs.zip ys).all fun (x, y) => equal x y

/-- Whether two schemas describe equal tables. -/
def Schema.equal (s t : Schema) : Bool :=
  s.tableName.toOption = t.tableName.toOption &&
    listsEqual Column.equal s.columnList t.columnList &&
    listsEqual Index.equal s.indexes t.indexes &&
    listsEqual ForeignKey.equal s.foreignKeys t.foreignKeys

end TableDdl
