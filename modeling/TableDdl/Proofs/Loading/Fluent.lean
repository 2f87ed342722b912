import TableDdl.Proofs.Draft.Granted
import TableDdl.Proofs.Loading.Meaning
import Mathlib.Algebra.Group.Int.Defs

/-!
# Descriptions and requests

What a typed description of a table says can also be written into a draft, part by part. The
requests that do so are all granted, and the schema that they write is the one that is read from
the description. The main statement says when a typed description is accepted, that it is refused
for a reason otherwise, and what it means.
-/

namespace TableDdl

open Draft (Request)

namespace Loading

variable {part : Part} {entries : List (Value × Value)}

/-- The edits of a column that its description asks for. -/
def columnEdits (entries : List (Value × Value)) : List ColumnEdit :=
  (givenType entries).toList.map (fun type => .type (some type)) ++
    (givenSize entries .length).toList.map (fun n => .length (some n)) ++
    (givenSize entries .precision).toList.map (fun n => .precision (some n)) ++
    (textual? (Value.field entries "default")).toList.map (fun text => .defaultText (some text)) ++
    [.nullable (flag entries "nullable"), .isUnsigned (flag entries "unsigned"),
      .autoIncrement (flag entries "auto_increment")]

/-- The edits of a foreign key that its description asks for. -/
def foreignKeyEdits (entries : List (Value × Value)) : List ForeignKeyEdit :=
  (Value.field entries "reference_table").given?.toList.map .referenceTable ++
    (Value.field entries "reference_column").given?.toList.map .referenceColumn ++
    [.onUpdate (Value.field entries "on_update"), .onDelete (Value.field entries "on_delete")]

/-- The requests for the column at a place. -/
def columnRequests (place : Nat) (entries : List (Value × Value)) : List Request :=
  .declare (Value.field entries "name") :: (columnEdits entries).map (.editColumn place)

/-- The requests for the index entry at a place. -/
def indexRequests (place : Nat) (entries : List (Value × Value)) : List Request :=
  [.addIndex (Value.field entries "column") (Value.field entries "key_name"),
    .editIndex place (.kind (describedKind entries))]

/-- The requests for the foreign key at a place. -/
def foreignKeyRequests (place : Nat) (entries : List (Value × Value)) : List Request :=
  .addForeignKey (Value.field entries "column") (Value.field entries "key_name") ::
    (foreignKeyEdits entries).map (.editForeignKey place)

/-- The requests for parts from a place on. -/
def requestsFrom (place : Nat) (each : Nat → List (Value × Value) → List Request)
    (listed : List (List (Value × Value))) : List Request :=
  (listed.zipIdx place).flatMap fun described => each described.2 described.1

/-- The requests for a table. -/
def tableRequests (entries : List (Value × Value)) : List Request :=
  (Value.field entries "prefix").given?.toList.map .setPrefix ++
    (requestsFrom 0 columnRequests (mappings .column entries) ++
      (requestsFrom 0 indexRequests (mappings .index entries) ++
        requestsFrom 0 foreignKeyRequests (mappings .foreignKey entries)))

/-- The edits make a new column the one that is described. -/
theorem editAll_columnEdits (entries : List (Value × Value)) :
    Column.editAll { name := Value.field entries "name" } (columnEdits entries) =
      describedColumn entries := by
  unfold columnEdits describedColumn
  cases givenType entries <;> cases givenSize entries .length <;>
    cases givenSize entries .precision <;> cases textual? (Value.field entries "default") <;> rfl

theorem editAll_foreignKeyEdits (entries : List (Value × Value)) (keyName column : Value) :
    ForeignKey.editAll { keyName, column } (foreignKeyEdits entries) =
      { keyName
        column
        referenceTable := (Value.field entries "reference_table").orElse .null
        referenceColumn := (Value.field entries "reference_column").orElse .null
        onUpdate := Value.field entries "on_update"
        onDelete := Value.field entries "on_delete" } := by
  unfold foreignKeyEdits Value.given? Value.orElse
  cases (Value.field entries "reference_table").isTruthy <;>
    cases (Value.field entries "reference_column").isTruthy <;> rfl

section Steps

variable {d : Draft}

theorem answerAll_columnRequests (named : d.WellNamed) (acceptable : IsAcceptable .column entries) :
    ∃ columns names,
      d.answerAll (columnRequests d.columns.length entries) = .ok { d with columns, names } ∧
        columns.length = d.columns.length + 1 ∧
        Draft.schema { d with columns, names } = putColumn d.schema entries := by
  have name : Value.field entries "name" = .str (textField "name" entries) :=
    field_name_eq acceptable
  have called : (Value.field entries "name").key = .ok (.text (textField "name" entries)) := by
    rw [name, Value.key_str]
  refine ⟨_, _, Draft.answerAll_declare called (columnEdits entries), by simp, ?_⟩
  rw [editAll_columnEdits, Draft.schema_declare named, putColumn, NameMap.put, ← name]

theorem answerAll_indexRequests (acceptable : IsAcceptable .index entries) :
    d.answerAll (indexRequests d.indexes.length entries) =
      .ok { d with indexes := d.indexes ++ [describedIndex entries] } :=
  Draft.answerAll_addIndex (indexOf_eq acceptable) [.kind (describedKind entries)]

theorem answerAll_foreignKeyRequests (acceptable : IsAcceptable .foreignKey entries) :
    d.answerAll (foreignKeyRequests d.foreignKeys.length entries) =
      .ok { d with foreignKeys := d.foreignKeys ++ [describedForeignKey entries] } := by
  have granted := Draft.answerAll_addForeignKey (d := d) (foreignKeyOf_eq acceptable)
    (foreignKeyEdits entries)
  rwa [editAll_foreignKeyEdits] at granted

/-- Where the requests for one part put it into the schema, the requests for all parts put all of
them there. The invariant counts the parts that are there. -/
theorem answerAll_requestsFrom {each : Nat → List (Value × Value) → List Request}
    {put : Schema → List (Value × Value) → Schema} {Counted : Nat → Draft → Prop}
    {listed : List (List (Value × Value))}
    (step : ∀ described ∈ listed, ∀ place d, Counted place d →
      ∃ e, d.answerAll (each place described) = .ok e ∧ e.schema = put d.schema described ∧
        Counted (place + 1) e)
    {place : Nat} (start : Counted place d) :
    ∃ e, d.answerAll (requestsFrom place each listed) = .ok e ∧
      e.schema = listed.foldl put d.schema ∧ Counted (place + listed.length) e := by
  induction listed generalizing place d with
  | nil => exact ⟨d, rfl, rfl, start⟩
  | cons described rest ih =>
    obtain ⟨middle, granted, written, counted⟩ := step described List.mem_cons_self place d start
    obtain ⟨e, later, schema, all⟩ :=
      ih (fun other member => step other (List.mem_cons_of_mem _ member)) counted
    refine ⟨e, ?_, ?_, ?_⟩
    · rw [requestsFrom, List.zipIdx_cons, List.flatMap_cons,
        Draft.answerAll_append_of_ok granted]
      exact later
    · rw [schema, written, List.foldl_cons]
    · rwa [List.length_cons, Nat.add_comm rest.length, ← Nat.add_assoc]

/-- The draft has so many columns, and no keys yet. -/
structure HasColumns (place : Nat) (d : Draft) : Prop where
  named : d.WellNamed
  columns : d.columns.length = place
  indexes : d.indexes = []
  foreignKeys : d.foreignKeys = []

/-- The draft has so many index entries, and no foreign keys yet. -/
structure HasIndexes (place : Nat) (d : Draft) : Prop where
  indexes : d.indexes.length = place
  foreignKeys : d.foreignKeys = []

/-- The draft has so many foreign keys. -/
def HasForeignKeys (place : Nat) (d : Draft) : Prop :=
  d.foreignKeys.length = place

variable {listed : List (List (Value × Value))}

theorem answerAll_columns (acceptable : ∀ described ∈ listed, IsAcceptable .column described)
    (start : HasColumns 0 d) :
    ∃ e, d.answerAll (requestsFrom 0 columnRequests listed) = .ok e ∧
      e.schema = listed.foldl putColumn d.schema ∧ HasColumns (0 + listed.length) e := by
  refine answerAll_requestsFrom ?_ start
  rintro described member _ d ⟨named, rfl, none, empty⟩
  obtain ⟨columns, names, granted, length, written⟩ :=
    answerAll_columnRequests named (acceptable described member)
  exact ⟨_, granted, written, named.answerAll granted, length, none, empty⟩

theorem answerAll_indexes (acceptable : ∀ described ∈ listed, IsAcceptable .index described)
    (start : HasIndexes 0 d) :
    ∃ e, d.answerAll (requestsFrom 0 indexRequests listed) = .ok e ∧
      e.schema = listed.foldl putIndex d.schema ∧ HasIndexes (0 + listed.length) e := by
  refine answerAll_requestsFrom ?_ start
  rintro described member _ d ⟨rfl, empty⟩
  exact ⟨_, answerAll_indexRequests (acceptable described member), rfl, by simp, empty⟩

theorem answerAll_foreignKeys
    (acceptable : ∀ described ∈ listed, IsAcceptable .foreignKey described)
    (start : HasForeignKeys 0 d) :
    ∃ e, d.answerAll (requestsFrom 0 foreignKeyRequests listed) = .ok e ∧
      e.schema = listed.foldl putForeignKey d.schema ∧ HasForeignKeys (0 + listed.length) e := by
  refine answerAll_requestsFrom ?_ start
  rintro described member _ d rfl
  exact ⟨_, answerAll_foreignKeyRequests (acceptable described member), rfl,
    by simp [HasForeignKeys]⟩

end Steps

/-- The requests for a description that is acceptable are all granted, and they write the schema
that it describes. -/
theorem exists_draft_of_acceptable (acceptable : IsAcceptableTable entries) :
    ∃ d, Draft.answerAll { baseName := Value.field entries "table" } (tableRequests entries) =
        .ok d ∧ d.schema = describedTable entries := by
  have front : Draft.answerAll { baseName := Value.field entries "table" }
      ((Value.field entries "prefix").given?.toList.map .setPrefix) =
        .ok { baseName := Value.field entries "table"
              tablePrefix := (Value.field entries "prefix").orElse .null } := by
    unfold Value.given? Value.orElse
    cases (Value.field entries "prefix").isTruthy <;> rfl
  have start : HasColumns 0
      { baseName := Value.field entries "table"
        tablePrefix := (Value.field entries "prefix").orElse .null } :=
    ⟨.of_no_names rfl, rfl, rfl, rfl⟩
  obtain ⟨ofColumns, columns, columnsPut, counted⟩ :=
    answerAll_columns (acceptable.parts .column (by decide)) start
  obtain ⟨ofIndexes, indexes, indexesPut, -, none⟩ :=
    answerAll_indexes (acceptable.parts .index (by decide))
      ⟨congrArg List.length counted.indexes, counted.foreignKeys⟩
  obtain ⟨d, foreignKeys, foreignKeysPut, -⟩ :=
    answerAll_foreignKeys (acceptable.parts .foreignKey (by decide)) (congrArg List.length none)
  refine ⟨d, ?_, ?_⟩
  · rw [tableRequests, Draft.answerAll_append_of_ok front, Draft.answerAll_append_of_ok columns,
      Draft.answerAll_append_of_ok indexes, foreignKeys]
  · rw [foreignKeysPut, indexesPut, columnsPut, describedTable_eq_foldl]
    rfl

/-- A typed description of a table is accepted exactly if it is acceptable. Otherwise it is refused
for a reason if the first demand that is not met is a reported one, as it is whenever what is put in
front of the name can be written. An accepted description means what the requests write that say the
same: a column for every name, where the name first came and as it was described last, and an index
entry and a foreign key for every description of one. -/
theorem table_of_typed (typed : IsTypedTable entries) :
    ((∃ s, table (.map entries) = .ok s) ↔ IsAcceptableTable entries) ∧
      (¬ IsAcceptableTable entries →
        ((∃ reason, table (.map entries) = refuse reason) ↔
          ∀ d, FirstUnmet (tableDemands (.map entries)) d → d.reported) ∧
        ((Value.field entries "prefix").Writable →
          ∃ reason, table (.map entries) = refuse reason)) ∧
      ∀ s, table (.map entries) = .ok s →
        (∃ d, Draft.answerAll { baseName := Value.field entries "table" } (tableRequests entries) =
          .ok d ∧ d.schema = s) ∧
        s.columnNames =
          ((mappings .column entries).map (textField "name")).eraseDups.map .str ∧
        s.columnList.map some =
          ((mappings .column entries).map (textField "name")).eraseDups.map (fun name =>
            ((mappings .column entries).reverse.find? fun described =>
              textField "name" described = name).map describedColumn) ∧
        s.indexes = (mappings .index entries).map describedIndex ∧
        s.foreignKeys = (mappings .foreignKey entries).map describedForeignKey := by
  refine ⟨typed.exists_table_iff, ?_, ?_⟩
  · intro unacceptable
    have notAccepted : ¬ ∃ s, table (.map entries) = .ok s :=
      mt typed.exists_table_iff.mp unacceptable
    have refused : Documented (table (.map entries)) ↔
        ∃ reason, table (.map entries) = refuse reason := or_iff_right notAccepted
    rw [← refused]
    exact ⟨(table_decides _).documented_iff, typed.documented_table⟩
  · intro s accepted
    have acceptable := typed.exists_table_iff.mp ⟨s, accepted⟩
    rw [typed.table_eq_describedTable acceptable] at accepted
    cases accepted
    exact ⟨exists_draft_of_acceptable acceptable, NameMap.spellings_ofList _ _ _,
      NameMap.items_ofList _ _ _, rfl, rfl⟩

/-- Descriptions of two columns, of which the first is described again. -/
def redescribedColumns : List (List (Value × Value)) :=
  [[(.str "name", .str "id"), (.str "type", .str "int"), (.str "length", .str " 11")],
    [(.str "name", .str "owner"), (.str "type", .str "int")],
    [(.str "name", .str "id"), (.str "type", .str "bigint")]]

/-- The description of a table with these columns. -/
def redescribed : List (Value × Value) :=
  [(.str "table", .str "pets"), (.str "columns", .list (redescribedColumns.map .map))]

theorem isTypedTable_redescribed : IsTypedTable redescribed := by
  refine ⟨by decide, ?_, ?_⟩
  · intro part other
    cases part with
    | table => exact absurd rfl other
    | column => exact .inr ⟨redescribedColumns, rfl⟩
    | index | foreignKey => exact .inl rfl
  · intro part other
    cases part with
    | table => exact absurd rfl other
    | column | index | foreignKey => decide

/-- The second description of the first column replaces the first one altogether. -/
theorem table_redescribed :
    IsTypedTable redescribed ∧ ∃ s, table (.map redescribed) = .ok s ∧
      s.columnNames = [.str "id", .str "owner"] ∧
      s.columnList = [{ name := .str "id", type := some "bigint" },
        { name := .str "owner", type := some "int" }] := by
  obtain ⟨-, -, means⟩ := table_of_typed isTypedTable_redescribed
  obtain ⟨s, accepted⟩ : ∃ s, table (.map redescribed) = .ok s := by decide +kernel
  obtain ⟨-, names, columns, -, -⟩ := means s accepted
  refine ⟨isTypedTable_redescribed, s, accepted, names.trans rfl, ?_⟩
  exact List.map_injective_iff.mpr (Option.some_injective _) (columns.trans rfl)

/-- The description of a table with a column that has no name, behind a prefix that is a number of
more digits than are written. -/
def unnamedColumn : List (Value × Value) :=
  [(.str "table", .str "t"), (.str "prefix", .int (16 ^ 3600 - 1)),
    (.str "columns", .list ([[]].map .map))]

theorem isTypedTable_unnamedColumn : IsTypedTable unnamedColumn := by
  refine ⟨by decide, ?_, ?_⟩
  · intro part other
    cases part with
    | table => exact absurd rfl other
    | column => exact .inr ⟨[[]], rfl⟩
    | index | foreignKey => exact .inl rfl
  · intro part other
    cases part with
    | table => exact absurd rfl other
    | column | index | foreignKey => decide

/-- That the column has no name is not reported: what would be said about it cannot be written. -/
theorem not_refused_unnamedColumn :
    IsTypedTable unnamedColumn ∧ ¬ IsAcceptableTable unnamedColumn ∧
      ¬ ∃ reason, table (.map unnamedColumn) = refuse reason := by
  have faulted : table (.map unnamedColumn) = .error (.fault .integerUnwritable) := by
    decide +kernel
  have undocumented := not_documented_of_fault faulted
  refine ⟨isTypedTable_unnamedColumn, ?_, fun refused => undocumented (.inr refused)⟩
  rw [← isTypedTable_unnamedColumn.exists_table_iff]
  exact fun accepted => undocumented (.inl accepted)

end Loading

end TableDdl
