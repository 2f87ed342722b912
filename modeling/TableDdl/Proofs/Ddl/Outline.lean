import TableDdl.Ddl.Clause
import TableDdl.Proofs.Names
import TableDdl.Validation

/-!
# Outlines

An outline is what the clauses of a schema say, before they are written: which columns stand in
which clause, under which names. Every clause is written from its part of the outline and from
nothing else, so the clauses of a schema can be talked about by their outline.
-/

namespace TableDdl.Ddl

/-- What the clause of a column says. The length and the precision are those that are written. -/
structure ColumnOutline where
  name : String
  type : String
  length : Option Int
  precision : Option Int
  isUnsigned : Bool
  nullable : Bool
  autoIncrement : Bool
  defaultText : Option String

/-- What the clause of an index says. -/
structure IndexOutline where
  kind : IndexKind
  keyName : String
  columns : List String

/-- What the clause of a foreign key says; what it refers to, and its actions, may be left open. -/
structure ForeignKeyOutline where
  keyName : String
  column : String
  referenceTable : Option String
  referenceColumn : Option String
  onUpdate : Option String
  onDelete : Option String

/-- What the clauses of a schema say, part by part. Of an entry of the primary key it is the
column. -/
structure Outline where
  columns : List ColumnOutline
  primaryKey : List String
  indexes : List IndexOutline
  foreignKeys : List ForeignKeyOutline

/-- The clause of a column. -/
def ColumnOutline.clause (c : ColumnOutline) : Except Fault String := do
  let sized ← typeText c.type c.length c.precision
  return c.name ++ " " ++ sized ++
    (if c.isUnsigned then " UNSIGNED" else "") ++
    (if c.nullable then " NULL" else " NOT NULL") ++
    (if c.autoIncrement then " AUTO_INCREMENT" else "") ++
    Ddl.defaultText c.type c.defaultText

/-- The clause of an entry of the primary key. -/
def primaryKeyClause (column : String) : String :=
  "PRIMARY KEY (" ++ column ++ ")"

/-- The clause of an index. -/
def IndexOutline.clause (i : IndexOutline) : String :=
  kindText i.kind ++ "INDEX " ++ i.keyName ++ " (" ++ ", ".intercalate i.columns ++ ")"

/-- An action on an event, if there is one. -/
def actionClause (event : String) : Option String → String
  | none => ""
  | some action => " ON " ++ event ++ " " ++ action

/-- The clause of a foreign key. -/
def ForeignKeyOutline.clause (fk : ForeignKeyOutline) : String :=
  "FOREIGN KEY " ++ fk.keyName ++ "(" ++ fk.column ++ ") REFERENCES " ++
    fk.referenceTable.getD "None" ++ "(" ++ fk.referenceColumn.getD "None" ++ ")" ++
    actionClause "UPDATE" fk.onUpdate ++ actionClause "DELETE" fk.onDelete

/-- The length that is written behind a type. -/
def writtenLength (type : String) (length : Option Int) : Option Int :=
  length.filter fun _ => type ∈ sizedTypes

/-- The precision that is written behind a type, beside a length. -/
def writtenPrecision (type : String) (length precision : Option Int) : Option Int :=
  precision.filter fun _ => (writtenLength type length).isSome ∧ type ∈ precisionTypes

/-- A type is written with its written length and its written precision. -/
theorem typeText_written (type : String) (length precision : Option Int) :
    typeText type (writtenLength type length) (writtenPrecision type length precision) =
      typeText type length precision := by
  cases length with
  | none => rfl
  | some n =>
    by_cases sized : type ∈ sizedTypes
    · simp [typeText, writtenLength, writtenPrecision, sized, Option.filter_filter,
        Option.filter_some]
    · simp [typeText, writtenLength, sized]

end Ddl

open Ddl

/-- What the clause of the column says. -/
def Column.outline (c : Column) : Except Fault ColumnOutline := do
  let type := c.normalizedType
  return {
    name := ← c.name.text
    type
    length := writtenLength type c.length
    precision := writtenPrecision type c.length c.precision
    isUnsigned := c.isUnsigned
    nullable := c.nullable
    autoIncrement := c.autoIncrement
    defaultText := c.defaultText }

/-- What the clause of the index says. -/
def IndexGroup.outline (g : IndexGroup) : Except Fault IndexOutline := do
  let columns ← joinNames.texts 0 g.columns
  return { kind := g.kind, keyName := ← g.keyName.text, columns }

/-- What the clause of the foreign key says. -/
def ForeignKey.outline (fk : ForeignKey) : Except Fault ForeignKeyOutline := do
  return {
    keyName := ← fk.keyName.text
    column := ← fk.column.text
    referenceTable := ← fk.referenceTable.nonNull?.mapM Value.text
    referenceColumn := ← fk.referenceColumn.nonNull?.mapM Value.text
    onUpdate := ← fk.onUpdate.given?.mapM Value.text
    onDelete := ← fk.onDelete.given?.mapM Value.text }

/-- The clause of a column is written from its outline. -/
theorem Column.clause_eq (c : Column) : c.clause = c.outline >>= ColumnOutline.clause := by
  simp only [clause, outline, ColumnOutline.clause, typeText_written, bind_assoc, pure_bind]

theorem Index.primaryClause_eq (i : Index) :
    i.primaryClause = primaryKeyClause <$> i.column.text := by
  simp only [primaryClause, map_eq_pure_bind, primaryKeyClause]

/-- The clause of an index is written from its outline. -/
theorem IndexGroup.clause_eq (g : IndexGroup) : g.clause = IndexOutline.clause <$> g.outline := by
  have joined : joinNames g.columns =
      joinNames.texts 0 g.columns >>= fun names => pure (", ".intercalate names) := by
    rw [joinNames]
    cases joinNames.texts 0 g.columns <;> rfl
  simp only [clause, outline, joined, map_eq_pure_bind, bind_assoc, pure_bind,
    IndexOutline.clause]

namespace Ddl

/-- What is left open is written as null is. -/
theorem text_eq_nonNull (v : Value) :
    v.text = v.nonNull?.mapM Value.text >>= fun text => pure (text.getD "None") := by
  cases absent : v.isNull with
  | true =>
    cases v <;> cases absent
    rfl
  | false =>
    simp only [Value.nonNull?, absent, Bool.false_eq_true, if_false]
    cases written : v.text <;> simp [written, Functor.map, Except.map]

theorem actionText_eq (event : String) (action : Value) :
    actionText event action =
      action.given?.mapM Value.text >>= fun text => pure (actionClause event text) := by
  cases given : action.isTruthy with
  | true =>
    simp only [actionText, Value.given?, given, if_true, Option.mapM_some]
    cases action.text <;> rfl
  | false =>
    simp only [actionText, Value.given?, given]
    rfl

end Ddl

/-- The clause of a foreign key is written from its outline. -/
theorem ForeignKey.clause_eq (fk : ForeignKey) :
    fk.clause = ForeignKeyOutline.clause <$> fk.outline := by
  rw [clause, outline, text_eq_nonNull fk.referenceTable, text_eq_nonNull fk.referenceColumn,
    actionText_eq, actionText_eq]
  simp only [map_eq_pure_bind, bind_assoc, pure_bind]
  rfl

namespace Ddl.Outline

/-- The columns that the clauses other than those of columns name. -/
def keyColumns (o : Outline) : List String :=
  o.primaryKey ++ o.indexes.flatMap (·.columns) ++ o.foreignKeys.map (·.column)

/-- The clauses of an outline, in the order of a statement. -/
def clauses (o : Outline) : Except Fault (List String) := do
  return (← o.columns.mapM ColumnOutline.clause) ++ o.primaryKey.map primaryKeyClause ++
    o.indexes.map IndexOutline.clause ++ o.foreignKeys.map ForeignKeyOutline.clause

end Ddl.Outline

namespace Schema

/-- What the clauses of the schema say. -/
def outline (s : Schema) : Except Fault Outline := do
  return {
    columns := ← s.columnList.mapM Column.outline
    primaryKey := ← s.primaryEntries.mapM (·.column.text)
    indexes := ← s.indexGroups >>= (·.mapM IndexGroup.outline)
    foreignKeys := ← s.foreignKeys.mapM ForeignKey.outline }

theorem outline_eq_ok_iff {s : Schema} {o : Outline} :
    s.outline = .ok o ↔
      s.columnList.mapM Column.outline = .ok o.columns ∧
        (s.primaryEntries.mapM fun i => i.column.text) = .ok o.primaryKey ∧
        (∃ groups, s.indexGroups = .ok groups ∧
          groups.mapM IndexGroup.outline = .ok o.indexes) ∧
        s.foreignKeys.mapM ForeignKey.outline = .ok o.foreignKeys := by
  simp only [outline, Result.bind_eq_ok_iff, Result.pure_eq_ok, Except.ok.injEq]
  constructor
  · rintro ⟨columns, h1, primaryKey, h2, indexes, ⟨groups, h3, h4⟩, foreignKeys, h5, rfl⟩
    exact ⟨h1, h2, ⟨groups, h3, h4⟩, h5⟩
  · rintro ⟨h1, h2, ⟨groups, h3, h4⟩, h5⟩
    exact ⟨_, h1, _, h2, _, ⟨groups, h3, h4⟩, _, h5, rfl⟩

/-- The clauses of a schema with an outline are the clauses of the outline, part by part. -/
theorem clauses_of_outline {s : Schema} {o : Outline} (outlined : s.outline = .ok o) :
    s.columnClauses = o.columns.mapM ColumnOutline.clause ∧
      s.primaryKeyClauses = .ok (o.primaryKey.map primaryKeyClause) ∧
      s.indexClauses = .ok (o.indexes.map IndexOutline.clause) ∧
      s.foreignKeyClauses = .ok (o.foreignKeys.map ForeignKeyOutline.clause) ∧
      s.clauses = o.clauses := by
  obtain ⟨columns, primaryKey, ⟨groups, grouped, indexes⟩, foreignKeys⟩ :=
    outline_eq_ok_iff.mp outlined
  have ofColumns : s.columnClauses = o.columns.mapM ColumnOutline.clause := by
    rw [columnClauses, funext Column.clause_eq]
    exact Result.mapM_bind_of_ok columns ColumnOutline.clause
  have ofPrimaryKey : s.primaryKeyClauses = .ok (o.primaryKey.map primaryKeyClause) := by
    rw [primaryKeyClauses, funext Index.primaryClause_eq]
    exact Result.mapM_map_of_ok primaryKey primaryKeyClause
  have ofIndexes : s.indexClauses = .ok (o.indexes.map IndexOutline.clause) := by
    rw [indexClauses, grouped, Result.ok_bind, funext IndexGroup.clause_eq]
    exact Result.mapM_map_of_ok indexes IndexOutline.clause
  have ofForeignKeys : s.foreignKeyClauses = .ok (o.foreignKeys.map ForeignKeyOutline.clause) := by
    rw [foreignKeyClauses, funext ForeignKey.clause_eq]
    exact Result.mapM_map_of_ok foreignKeys ForeignKeyOutline.clause
  refine ⟨ofColumns, ofPrimaryKey, ofIndexes, ofForeignKeys, ?_⟩
  simp only [clauses, Outline.clauses, ofColumns, ofPrimaryKey, ofIndexes, ofForeignKeys,
    Result.ok_bind]

/-- A schema whose clauses can be written has an outline. -/
theorem exists_outline_of_clauses {s : Schema} {texts : List String}
    (written : s.clauses = .ok texts) : ∃ o, s.outline = .ok o := by
  obtain ⟨columns, ofColumns, written⟩ := Result.bind_eq_ok_iff.mp written
  obtain ⟨primaryKey, ofPrimaryKey, written⟩ := Result.bind_eq_ok_iff.mp written
  obtain ⟨indexes, ofIndexes, written⟩ := Result.bind_eq_ok_iff.mp written
  obtain ⟨foreignKeys, ofForeignKeys, -⟩ := Result.bind_eq_ok_iff.mp written
  obtain ⟨groups, grouped, ofIndexes⟩ := Result.bind_eq_ok_iff.mp ofIndexes
  rw [columnClauses, funext Column.clause_eq] at ofColumns
  rw [primaryKeyClauses, funext Index.primaryClause_eq] at ofPrimaryKey
  rw [funext IndexGroup.clause_eq] at ofIndexes
  rw [foreignKeyClauses, funext ForeignKey.clause_eq] at ofForeignKeys
  obtain ⟨columns, h1⟩ := Result.exists_mapM_of_bind ofColumns
  obtain ⟨primaryKey, h2⟩ := Result.exists_mapM_of_bind ofPrimaryKey
  obtain ⟨indexes, h3⟩ := Result.exists_mapM_of_bind ofIndexes
  obtain ⟨foreignKeys, h4⟩ := Result.exists_mapM_of_bind ofForeignKeys
  exact ⟨⟨columns, primaryKey, indexes, foreignKeys⟩,
    outline_eq_ok_iff.mpr ⟨h1, h2, ⟨groups, grouped, h3⟩, h4⟩⟩

end Schema

end TableDdl
