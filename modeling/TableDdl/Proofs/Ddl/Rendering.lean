import TableDdl.Proofs.Ddl.Grouping
import TableDdl.Proofs.Ddl.Outline

/-!
# When a schema can be written

The clauses of a schema come to texts exactly if it has an outline and every size that is written
is short enough. An outline asks for names that can be written, and the columns of indexes have to
be texts, since they are put together. The columns that the other clauses name are then those of
the index entries and of the foreign keys, whatever way the entries were grouped.
-/

namespace TableDdl

open Ddl

namespace Ddl

theorem exists_typeText_iff {type : String} {length precision : Option Int} :
    (∃ text, typeText type length precision = .ok text) ↔
      (∀ n ∈ writtenLength type length, (Value.int n).Writable) ∧
        ∀ p ∈ writtenPrecision type length precision, (Value.int p).Writable := by
  cases length with
  | none => simp [typeText, writtenLength, writtenPrecision]
  | some n =>
    by_cases sized : type ∈ sizedTypes
    · have long : ∀ m : Int, (Value.int m).Writable ↔ ∃ text, wholeText m = .ok text :=
        fun m => Iff.rfl
      cases given : precision.filter fun _ => decide (type ∈ precisionTypes) with
      | none =>
        simp [typeText, writtenLength, writtenPrecision, sized, given, long,
          Result.bind_eq_ok_iff]
      | some p =>
        simp [typeText, writtenLength, writtenPrecision, sized, given, long,
          Result.bind_eq_ok_iff]
    · simp [typeText, writtenLength, writtenPrecision, sized]

end Ddl

/-- The sizes that are written behind the type are short enough. -/
def Column.WritableSizes (c : Column) : Prop :=
  (∀ n ∈ writtenLength c.normalizedType c.length, (Value.int n).Writable) ∧
    ∀ p ∈ writtenPrecision c.normalizedType c.length c.precision, (Value.int p).Writable

theorem Column.outline_eq_ok_iff {c : Column} {o : ColumnOutline} :
    c.outline = .ok o ↔
      ∃ name, c.name.text = .ok name ∧
        o = { name, type := c.normalizedType
              length := writtenLength c.normalizedType c.length
              precision := writtenPrecision c.normalizedType c.length c.precision
              isUnsigned := c.isUnsigned, nullable := c.nullable
              autoIncrement := c.autoIncrement, defaultText := c.defaultText } := by
  simp only [outline, Result.bind_eq_ok_iff, Result.pure_eq_ok, Except.ok.injEq,
    eq_comm (a := o)]

theorem Column.exists_clause_iff {c : Column} {o : ColumnOutline} (outlined : c.outline = .ok o) :
    (∃ text, o.clause = .ok text) ↔ c.WritableSizes := by
  obtain ⟨name, -, rfl⟩ := outline_eq_ok_iff.mp outlined
  rw [WritableSizes, ← exists_typeText_iff]
  simp only [ColumnOutline.clause, typeText_written, Result.bind_eq_ok_iff, Result.pure_eq_ok,
    Except.ok.injEq]
  constructor
  · rintro ⟨-, text, sized, -⟩
    exact ⟨text, sized⟩
  · rintro ⟨text, sized⟩
    exact ⟨_, text, sized, rfl⟩

/-- Only the clauses of the columns can fail to come to texts. -/
theorem Ddl.Outline.exists_clauses_iff {o : Outline} :
    (∃ texts, o.clauses = .ok texts) ↔
      ∃ texts, o.columns.mapM ColumnOutline.clause = .ok texts := by
  simp only [clauses, Result.bind_eq_ok_iff, Result.pure_eq_ok, Except.ok.injEq]
  constructor
  · rintro ⟨-, columns, written, -⟩
    exact ⟨columns, written⟩
  · rintro ⟨columns, written⟩
    exact ⟨_, columns, written, rfl⟩

theorem IndexGroup.outline_eq_ok_iff {g : IndexGroup} {o : IndexOutline} :
    g.outline = .ok o ↔
      o.kind = g.kind ∧ g.keyName.text = .ok o.keyName ∧ g.columns = o.columns.map .str := by
  simp only [outline, Result.bind_eq_ok_iff, Result.pure_eq_ok, Except.ok.injEq, texts_eq_ok_iff]
  constructor
  · rintro ⟨columns, texts, keyName, written, rfl⟩
    exact ⟨rfl, written, texts⟩
  · rintro ⟨kind, written, texts⟩
    refine ⟨_, texts, _, written, ?_⟩
    rw [← kind]

theorem ForeignKey.outline_eq_ok_iff {fk : ForeignKey} {o : ForeignKeyOutline} :
    fk.outline = .ok o ↔
      fk.keyName.text = .ok o.keyName ∧ fk.column.text = .ok o.column ∧
        fk.referenceTable.nonNull?.mapM Value.text = .ok o.referenceTable ∧
        fk.referenceColumn.nonNull?.mapM Value.text = .ok o.referenceColumn ∧
        fk.onUpdate.given?.mapM Value.text = .ok o.onUpdate ∧
        fk.onDelete.given?.mapM Value.text = .ok o.onDelete := by
  simp only [outline, Result.bind_eq_ok_iff, Result.pure_eq_ok, Except.ok.injEq]
  constructor
  · rintro ⟨_, h1, _, h2, _, h3, _, h4, _, h5, _, h6, rfl⟩
    exact ⟨h1, h2, h3, h4, h5, h6⟩
  · rintro ⟨h1, h2, h3, h4, h5, h6⟩
    exact ⟨_, h1, _, h2, _, h3, _, h4, _, h5, _, h6, rfl⟩

theorem ForeignKey.exists_outline_iff {fk : ForeignKey} :
    (∃ o, fk.outline = .ok o) ↔
      fk.keyName.Writable ∧ fk.column.Writable ∧ fk.referenceTable.Writable ∧
        fk.referenceColumn.Writable ∧ fk.onUpdate.Writable ∧ fk.onDelete.Writable := by
  rw [← @Value.exists_nonNull_text_iff fk.referenceTable,
    ← @Value.exists_nonNull_text_iff fk.referenceColumn,
    ← @Value.exists_given_text_iff fk.onUpdate, ← @Value.exists_given_text_iff fk.onDelete]
  simp only [outline_eq_ok_iff]
  constructor
  · rintro ⟨o, h1, h2, h3, h4, h5, h6⟩
    exact ⟨⟨_, h1⟩, ⟨_, h2⟩, ⟨_, h3⟩, ⟨_, h4⟩, ⟨_, h5⟩, _, h6⟩
  · rintro ⟨⟨_, h1⟩, ⟨_, h2⟩, ⟨_, h3⟩, ⟨_, h4⟩, ⟨_, h5⟩, _, h6⟩
    exact ⟨⟨_, _, _, _, _, _⟩, h1, h2, h3, h4, h5, h6⟩

theorem ForeignKey.column_of_outline {fk : ForeignKey} {o : ForeignKeyOutline}
    (outlined : fk.outline = .ok o) : fk.column.text = .ok o.column :=
  (outline_eq_ok_iff.mp outlined).2.1

namespace Schema

variable {s : Schema} {o : Outline}

/-- An index entry belongs to the primary key, or it is one of the others. -/
theorem mem_indexes_iff {i : Index} :
    i ∈ s.indexes ↔ i ∈ s.primaryEntries ∨ i ∈ s.secondaryEntries := by
  rw [primaryEntries, secondaryEntries, List.mem_filter, List.mem_filter]
  cases i.isPrimary <;> simp

theorem exists_outline_iff :
    (∃ o, s.outline = .ok o) ↔
      (∀ c ∈ s.columnList, c.name.Writable) ∧
        (∀ i ∈ s.primaryEntries, i.column.Writable) ∧
        (∃ groups, s.indexGroups = .ok groups ∧
          ∀ g ∈ groups, g.keyName.Writable ∧ ∀ v ∈ g.columns, v.isText = true) ∧
        ∀ fk ∈ s.foreignKeys, ∃ o, fk.outline = .ok o := by
  have ofColumn (c : Column) : (∃ o, c.outline = .ok o) ↔ c.name.Writable := by
    simp only [Column.outline_eq_ok_iff, Value.Writable]
    constructor
    · rintro ⟨_, name, written, -⟩
      exact ⟨name, written⟩
    · rintro ⟨name, written⟩
      exact ⟨_, name, written, rfl⟩
  have ofGroup (g : IndexGroup) :
      (∃ o, g.outline = .ok o) ↔ g.keyName.Writable ∧ ∀ v ∈ g.columns, v.isText = true := by
    simp only [IndexGroup.outline_eq_ok_iff, Value.Writable, Value.forall_isText_iff]
    constructor
    · rintro ⟨o, -, written, texts⟩
      exact ⟨⟨_, written⟩, _, texts⟩
    · rintro ⟨⟨keyName, written⟩, columns, texts⟩
      exact ⟨⟨g.kind, keyName, columns⟩, rfl, written, texts⟩
  simp only [← ofColumn, ← ofGroup]
  simp only [Value.Writable, ← Result.exists_mapM_eq_ok_iff, outline_eq_ok_iff]
  constructor
  · rintro ⟨o, h1, h2, ⟨groups, h3, h4⟩, h5⟩
    exact ⟨⟨_, h1⟩, ⟨_, h2⟩, ⟨groups, h3, _, h4⟩, _, h5⟩
  · rintro ⟨⟨_, h1⟩, ⟨_, h2⟩, ⟨groups, h3, _, h4⟩, _, h5⟩
    exact ⟨⟨_, _, _, _⟩, h1, h2, ⟨groups, h3, h4⟩, h5⟩

/-- The names in the clauses of the columns are the texts of the names of the columns. -/
theorem mem_columnNames_outline (outlined : s.outline = .ok o) {name : String} :
    name ∈ o.columns.map (·.name) ↔ ∃ c ∈ s.columnList, c.name.text = .ok name := by
  obtain ⟨columns, -, -, -⟩ := outline_eq_ok_iff.mp outlined
  rw [List.mem_map]
  simp only [Result.mem_iff_of_mapM columns]
  constructor
  · rintro ⟨out, ⟨c, member, ofColumn⟩, rfl⟩
    obtain ⟨name, written, rfl⟩ := Column.outline_eq_ok_iff.mp ofColumn
    exact ⟨c, member, written⟩
  · rintro ⟨c, member, written⟩
    exact ⟨_, ⟨c, member, Column.outline_eq_ok_iff.mpr ⟨name, written, rfl⟩⟩, rfl⟩

theorem mem_indexColumns_outline (outlined : s.outline = .ok o) {column : String} :
    column ∈ o.indexes.flatMap (·.columns) ↔ ∃ i ∈ s.secondaryEntries, i.column = .str column := by
  obtain ⟨-, -, ⟨groups, grouped, indexes⟩, -⟩ := outline_eq_ok_iff.mp outlined
  have kept : .str column ∈ IndexGroup.allColumns groups ↔
      ∃ i ∈ s.secondaryEntries, i.column = .str column := by
    rw [(allColumns_indexGroups grouped).mem_iff, List.mem_map]
  rw [← kept, IndexGroup.allColumns, List.mem_flatMap, List.mem_flatMap]
  simp only [Result.mem_iff_of_mapM indexes]
  constructor
  · rintro ⟨out, ⟨g, member, ofGroup⟩, listed⟩
    obtain ⟨-, -, texts⟩ := IndexGroup.outline_eq_ok_iff.mp ofGroup
    exact ⟨g, member, texts ▸ List.mem_map_of_mem listed⟩
  · rintro ⟨g, member, listed⟩
    obtain ⟨out, ofGroup⟩ := Result.exists_mapM_eq_ok_iff.mp ⟨_, indexes⟩ g member
    obtain ⟨-, -, texts⟩ := IndexGroup.outline_eq_ok_iff.mp ofGroup
    rw [texts, List.mem_map] at listed
    obtain ⟨name, there, same⟩ := listed
    cases same
    exact ⟨out, ⟨g, member, ofGroup⟩, there⟩

/-- In a schema with an outline, the columns of index entries outside the primary key are
texts. -/
theorem isText_of_mem_secondaryEntries (outlined : s.outline = .ok o) {i : Index}
    (member : i ∈ s.secondaryEntries) : i.column.isText = true := by
  obtain ⟨-, -, ⟨groups, grouped, texts⟩, -⟩ := exists_outline_iff.mp ⟨o, outlined⟩
  have listed : i.column ∈ IndexGroup.allColumns groups :=
    (allColumns_indexGroups grouped).mem_iff.mpr (List.mem_map_of_mem member)
  obtain ⟨g, there, inside⟩ := List.mem_flatMap.mp listed
  exact (texts g there).2 i.column inside

/-- The columns that the other clauses name are those of the index entries and of the foreign
keys. -/
theorem mem_keyColumns_outline (outlined : s.outline = .ok o) {column : String} :
    column ∈ o.keyColumns ↔
      (∃ i ∈ s.indexes, i.column.text = .ok column) ∨
        ∃ fk ∈ s.foreignKeys, fk.column.text = .ok column := by
  obtain ⟨-, primaryKey, -, foreignKeys⟩ := outline_eq_ok_iff.mp outlined
  have ofPrimaryKey : column ∈ o.primaryKey ↔
      ∃ i ∈ s.primaryEntries, i.column.text = .ok column := Result.mem_iff_of_mapM primaryKey
  have ofForeignKeys : column ∈ o.foreignKeys.map (·.column) ↔
      ∃ fk ∈ s.foreignKeys, fk.column.text = .ok column := by
    rw [List.mem_map]
    simp only [Result.mem_iff_of_mapM foreignKeys]
    constructor
    · rintro ⟨out, ⟨fk, member, ofKey⟩, rfl⟩
      exact ⟨fk, member, ForeignKey.column_of_outline ofKey⟩
    · rintro ⟨fk, member, written⟩
      obtain ⟨out, ofKey⟩ := Result.exists_mapM_eq_ok_iff.mp ⟨_, foreignKeys⟩ fk member
      have same := (ForeignKey.column_of_outline ofKey).symm.trans written
      exact ⟨out, ⟨fk, member, ofKey⟩, Except.ok.inj same⟩
  rw [Outline.keyColumns, List.mem_append, List.mem_append, ofPrimaryKey,
    mem_indexColumns_outline outlined, ofForeignKeys]
  refine or_congr_left ?_
  constructor
  · rintro (⟨i, primary, written⟩ | ⟨i, secondary, text⟩)
    · exact ⟨i, mem_indexes_iff.mpr (.inl primary), written⟩
    · exact ⟨i, mem_indexes_iff.mpr (.inr secondary), by rw [text, Value.text_str]⟩
  · rintro ⟨i, member, written⟩
    rcases mem_indexes_iff.mp member with primary | secondary
    · exact .inl ⟨i, primary, written⟩
    · obtain ⟨name, text⟩ := Value.isText_iff.mp
        (isText_of_mem_secondaryEntries outlined secondary)
      rw [text, Value.text_str, Except.ok.injEq] at written
      exact .inr ⟨i, secondary, written ▸ text⟩

/-- The clauses of a schema come to texts exactly if it has an outline and its sizes are short
enough. -/
theorem exists_clauses_iff :
    (∃ texts, s.clauses = .ok texts) ↔
      (∃ o, s.outline = .ok o) ∧ ∀ c ∈ s.columnList, c.WritableSizes := by
  have ofColumns {o : Outline} (outlined : s.outline = .ok o) :
      (∃ texts, s.clauses = .ok texts) ↔ ∀ c ∈ s.columnList, c.WritableSizes := by
    obtain ⟨columns, -, -, -⟩ := outline_eq_ok_iff.mp outlined
    rw [(clauses_of_outline outlined).2.2.2.2, Outline.exists_clauses_iff,
      ← Result.mapM_bind_of_ok columns, Result.exists_mapM_eq_ok_iff]
    refine forall₂_congr fun c member => ?_
    obtain ⟨out, ofColumn⟩ := Result.exists_mapM_eq_ok_iff.mp ⟨_, columns⟩ c member
    rw [ofColumn, Result.ok_bind]
    exact Column.exists_clause_iff ofColumn
  constructor
  · rintro ⟨texts, written⟩
    obtain ⟨o, outlined⟩ := exists_outline_of_clauses written
    exact ⟨⟨o, outlined⟩, (ofColumns outlined).mp ⟨texts, written⟩⟩
  · rintro ⟨⟨o, outlined⟩, sized⟩
    exact (ofColumns outlined).mpr sized

end Schema

end TableDdl
