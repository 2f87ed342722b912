import TableDdl.Proofs.Ddl.Rendering
import TableDdl.Proofs.Schema.Named
import TableDdl.Proofs.Validation

/-!
# Schemas with texts for names

If every name in a schema is a text, nothing stands in the way of the checks, and the schema has
an outline.
-/

namespace TableDdl

open Ddl

/-- The names of the index and of its column are texts. -/
structure Index.IsTextual (i : Index) : Prop where
  keyName : i.keyName.isText = true
  column : i.column.isText = true

/-- The names in a foreign key are texts, or left open where they may be. -/
structure ForeignKey.IsTextual (fk : ForeignKey) : Prop where
  keyName : fk.keyName.isText = true
  column : fk.column.isText = true
  referenceTable : fk.referenceTable.isOptionalText = true
  referenceColumn : fk.referenceColumn.isOptionalText = true
  onUpdate : fk.onUpdate.isOptionalText = true
  onDelete : fk.onDelete.isOptionalText = true

/-- Every name in the schema is a text. -/
structure Schema.IsTextual (s : Schema) : Prop where
  columns : ∀ c ∈ s.columnList, c.name.isText = true
  indexes : ∀ i ∈ s.indexes, i.IsTextual
  foreignKeys : ∀ fk ∈ s.foreignKeys, fk.IsTextual

theorem ForeignKey.IsTextual.exists_outline {fk : ForeignKey} (textual : fk.IsTextual) :
    ∃ o, fk.outline = .ok o := by
  rw [exists_outline_iff]
  exact ⟨Value.writable_of_isText textual.keyName, Value.writable_of_isText textual.column,
    Value.writable_of_isOptionalText textual.referenceTable,
    Value.writable_of_isOptionalText textual.referenceColumn,
    Value.writable_of_isOptionalText textual.onUpdate,
    Value.writable_of_isOptionalText textual.onDelete⟩

namespace Schema.IsTextual

variable {s : Schema}

theorem exists_hasColumn {v : Value} (text : v.isText = true) :
    ∃ known, s.hasColumn v = .ok known := by
  obtain ⟨name, rfl⟩ := Value.isText_iff.mp text
  exact ⟨_, hasColumn_str name⟩

/-- Whatever is named by texts can be checked. -/
theorem checks {keyName column : Value} (keyText : keyName.isText = true)
    (columnText : column.isText = true) : s.Checks keyName column := by
  obtain ⟨known, asked⟩ := exists_hasColumn (s := s) columnText
  cases known with
  | true => exact .inl asked
  | false =>
    exact .inr ⟨asked, Value.writable_of_isText keyText, Value.writable_of_isText columnText⟩

theorem checkable (textual : s.IsTextual) : s.Checkable where
  untyped c member _ := Value.writable_of_isText (textual.columns c member)
  indexed i member := checks (textual.indexes i member).keyName (textual.indexes i member).column
  tied fk member :=
    checks (textual.foreignKeys fk member).keyName (textual.foreignKeys fk member).column
  unresolved fk member _ := Value.writable_of_isText (textual.foreignKeys fk member).keyName

theorem exists_outline (textual : s.IsTextual) : ∃ o, s.outline = .ok o := by
  have entry : ∀ i ∈ s.secondaryEntries, i.IsTextual :=
    fun i member => textual.indexes i (List.mem_of_mem_filter member)
  obtain ⟨groups, grouped⟩ :=
    exists_indexGroups_iff.mpr fun i member => Value.nameable_of_isText (entry i member).keyName
  refine exists_outline_iff.mpr ⟨?_, ?_, ⟨groups, grouped, fun g member => ⟨?_, ?_⟩⟩, ?_⟩
  · intro c member
    exact Value.writable_of_isText (textual.columns c member)
  · intro i member
    exact Value.writable_of_isText (textual.indexes i (List.mem_of_mem_filter member)).column
  · obtain ⟨i, there, same⟩ := exists_keyName_eq_of_mem_indexGroups grouped member
    exact Value.writable_of_isText (same ▸ (textual.indexes i there).keyName)
  · intro v inside
    obtain ⟨i, there, rfl⟩ := exists_entry_of_mem_columns grouped member inside
    exact (entry i there).column
  · intro fk member
    exact (textual.foreignKeys fk member).exists_outline

end Schema.IsTextual

end TableDdl
