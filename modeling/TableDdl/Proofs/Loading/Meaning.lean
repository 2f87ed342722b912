import TableDdl.Proofs.Loading.Typed
import TableDdl.Proofs.Schema.Latest

/-!
# What typed descriptions mean

A typed description that is acceptable says what its part is: a column with what the fields say
about it, an index entry, a foreign key. The schema of a table has a column for every name, which
is what the last description of that name says, and an index entry and a foreign key for every
description of one.
-/

namespace TableDdl.Loading

variable {part : Part} {entries : List (Value × Value)}

/-- The text in a field, empty if there is none. -/
def textField (name : String) (entries : List (Value × Value)) : String :=
  (textual? (Value.field entries name)).getD ""

/-- The type that the description of a column gives, if it gives one. -/
def givenType (entries : List (Value × Value)) : Option String :=
  (Value.field entries "type").given?.bind textual?

/-- The size that the description of a column gives, if it gives one. -/
def givenSize (entries : List (Value × Value)) (size : SizeField) : Option Int :=
  (wholeNumber (Value.field entries size.label)).toOption.join

/-- The column that a description describes. -/
def describedColumn (entries : List (Value × Value)) : Column where
  name := Value.field entries "name"
  type := givenType entries
  length := givenSize entries .length
  precision := givenSize entries .precision
  nullable := flag entries "nullable"
  defaultText := textual? (Value.field entries "default")
  isUnsigned := flag entries "unsigned"
  autoIncrement := flag entries "auto_increment"

/-- The name that the description of a key gives it, or the one that it takes from its column. -/
def describedKeyName (front : String) (entries : List (Value × Value)) : Value :=
  (Value.field entries "key_name").orElse (.str (front ++ textField "column" entries))

/-- The kind that the description of an index entry names; plain if it names none. -/
def describedKind (entries : List (Value × Value)) : IndexKind :=
  ((textual? (kindOf entries)).bind fun word => kindOfWord? (Text.lower word)).getD .plain

/-- The index entry that a description describes. -/
def describedIndex (entries : List (Value × Value)) : Index where
  keyName := describedKeyName "ix_" entries
  column := Value.field entries "column"
  kind := describedKind entries

/-- The foreign key that a description describes. -/
def describedForeignKey (entries : List (Value × Value)) : ForeignKey where
  keyName := describedKeyName "fk_" entries
  column := Value.field entries "column"
  referenceTable := (Value.field entries "reference_table").orElse .null
  referenceColumn := (Value.field entries "reference_column").orElse .null
  onUpdate := Value.field entries "on_update"
  onDelete := Value.field entries "on_delete"

/-- Put the column that a description describes under its name. -/
def putColumn (s : Schema) (entries : List (Value × Value)) : Schema :=
  { s with columns := s.columns.put (textField "name") describedColumn entries }

/-- Put the index entry that a description describes at the end. -/
def putIndex (s : Schema) (entries : List (Value × Value)) : Schema :=
  { s with indexes := s.indexes ++ [describedIndex entries] }

/-- Put the foreign key that a description describes at the end. -/
def putForeignKey (s : Schema) (entries : List (Value × Value)) : Schema :=
  { s with foreignKeys := s.foreignKeys ++ [describedForeignKey entries] }

/-- The schema that the description of a table describes. -/
def describedTable (entries : List (Value × Value)) : Schema where
  baseName := Value.field entries "table"
  tablePrefix := (Value.field entries "prefix").orElse .null
  columns := NameMap.ofList (textField "name") describedColumn (mappings .column entries)
  indexes := (mappings .index entries).map describedIndex
  foreignKeys := (mappings .foreignKey entries).map describedForeignKey

section Fields

theorem textOf_given? {v : Value} (text : v.isOptionalText = true) :
    textOf v.given? = .ok (v.given?.bind textual?) := by
  rcases Value.isOptionalText_iff.mp text with rfl | ⟨s, rfl⟩
  · rfl
  · rw [Value.given?]
    split <;> rfl

theorem textOf_nonNull? {v : Value} (text : v.isOptionalText = true) :
    textOf v.nonNull? = .ok (textual? v) := by
  rcases Value.isOptionalText_iff.mp text with rfl | ⟨s, rfl⟩ <;> rfl

theorem size?_of_acceptable (typed : IsTyped .column entries)
    (acceptable : IsAcceptable .column entries) (size : SizeField) (column : Value) :
    size? entries size column = .ok (givenSize entries size) := by
  have read := acceptable.sizes rfl size
  have kind := typed.sizes rfl size
  cases found : Value.field entries size.label with
  | null =>
    rw [size?_of_isNull (by rw [found]; rfl), givenSize, found]
    rfl
  | int n =>
    rw [size?_of_given (by rw [found]; rfl), givenSize, found]
    rfl
  | str s =>
    obtain ⟨n, whole⟩ := read s found
    have number : wholeNumber (.str s) = .ok (some n) := by
      rw [wholeNumber, whole]
      rfl
    rw [size?_of_given (by rw [found]; rfl), givenSize, found, number]
    rfl
  | _ =>
    rw [found] at kind
    cases kind

theorem columnNamed_of_acceptable (typed : IsTyped .column entries)
    (acceptable : IsAcceptable .column entries) :
    columnNamed entries (Value.field entries "name") = .ok (describedColumn entries) := by
  have type := textOf_given? (typed.texts "type" (by decide))
  have default := textOf_nonNull? (typed.texts "default" (by decide))
  simp only [columnNamed, type, default, size?_of_acceptable typed acceptable,
    Result.liftM_eq_ofFault, Result.ofFault_ok, Result.ok_bind]
  rfl

theorem field_name_eq (acceptable : IsAcceptable part entries) :
    Value.field entries part.nameField = .str (textField part.nameField entries) := by
  obtain ⟨s, same, -⟩ := acceptable.named
  rw [textField, same]
  rfl

theorem given?_name_eq (acceptable : IsAcceptable part entries) :
    (Value.field entries part.nameField).given? =
      some (Value.field entries part.nameField) := by
  obtain ⟨s, same, nonempty⟩ := acceptable.named
  exact given?_eq_some_iff.mpr ⟨by simp [same, nonempty], rfl⟩

theorem description_of_acceptable (acceptable : IsAcceptable part entries) :
    description part (.map entries) = .ok entries :=
  description_eq_ok_iff.mpr ⟨rfl, acceptable.known⟩

end Fields

section Parts

theorem addColumn_of_acceptable (typed : IsTyped .column entries)
    (acceptable : IsAcceptable .column entries) (s : Schema) :
    addColumn s (.map entries) = .ok (putColumn s entries) := by
  have given : (Value.field entries "name").given? = some (Value.field entries "name") :=
    given?_name_eq acceptable
  have name : Value.field entries "name" = .str (textField "name" entries) :=
    field_name_eq acceptable
  have key : (Value.field entries "name").key = .ok (.text (textField "name" entries)) := by
    rw [name, Value.key_str]
  simp only [addColumn, description_of_acceptable acceptable, given, key, Result.liftM_eq_ofFault,
    Result.ofFault_ok, Result.ok_bind, columnNamed_of_acceptable typed acceptable]
  rw [putColumn, NameMap.put, ← name]
  rfl

theorem text_column_eq (acceptable : IsAcceptable part entries) (key : part.nameField = "column") :
    (Value.field entries "column").text = .ok (textField "column" entries) := by
  have name := field_name_eq acceptable
  rw [key] at name
  rw [name]
  rfl

theorem indexOf_eq (acceptable : IsAcceptable .index entries) :
    Index.of (Value.field entries "column") (Value.field entries "key_name") =
      .ok { keyName := describedKeyName "ix_" entries
            column := Value.field entries "column" } := by
  have column := text_column_eq acceptable rfl
  cases given : (Value.field entries "key_name").isTruthy <;>
    simp [Index.of, describedKeyName, Value.orElse, given, column]

theorem foreignKeyOf_eq (acceptable : IsAcceptable .foreignKey entries) :
    ForeignKey.of (Value.field entries "column") (Value.field entries "key_name") =
      .ok { keyName := describedKeyName "fk_" entries
            column := Value.field entries "column" } := by
  have column := text_column_eq acceptable rfl
  cases given : (Value.field entries "key_name").isTruthy <;>
    simp [ForeignKey.of, describedKeyName, Value.orElse, given, column]

theorem addIndex_of_acceptable (acceptable : IsAcceptable .index entries) (s : Schema) :
    addIndex s (.map entries) = .ok (putIndex s entries) := by
  have given : (Value.field entries "column").given? = some (Value.field entries "column") :=
    given?_name_eq acceptable
  obtain ⟨word, named, listed⟩ := acceptable.kind rfl
  obtain ⟨kind, found⟩ := exists_kindOfWord?_iff.mpr listed
  have described : describedKind entries = kind := by
    rw [describedKind, named, textual?, Option.bind_some, found, Option.getD_some]
  have written : ((Value.field? entries "kind").getD (.str "plain")).text = .ok word := by
    rw [← kindOf, named]
    rfl
  simp only [addIndex, description_of_acceptable acceptable, given, written, found,
    Result.liftM_eq_ofFault, Result.ofFault_ok, Result.ok_bind, indexOf_eq acceptable]
  rw [putIndex, describedIndex, described]
  rfl

theorem addForeignKey_of_acceptable (acceptable : IsAcceptable .foreignKey entries) (s : Schema) :
    addForeignKey s (.map entries) = .ok (putForeignKey s entries) := by
  have given : (Value.field entries "column").given? = some (Value.field entries "column") :=
    given?_name_eq acceptable
  simp only [addForeignKey, description_of_acceptable acceptable, given, Result.liftM_eq_ofFault,
    Result.ofFault_ok, Result.ok_bind, foreignKeyOf_eq acceptable]
  rfl

end Parts

section Table

variable {add : Schema → Value → Attempt LoadError Schema}
  {put : Schema → List (Value × Value) → Schema}

/-- Where every part can be added, adding all parts puts what they describe into the schema. -/
theorem addParts_of_acceptable (listed : (Value.field entries part.listField).IsMappings)
    (each : ∀ described ∈ mappings part entries, ∀ s,
      add s (.map described) = .ok (put s described))
    (s : Schema) :
    addParts add s (Value.field entries part.listField) =
      .ok ((mappings part entries).foldl put s) := by
  rw [addParts, elements_of_isMappings listed, Result.liftM_eq_ofFault, Result.ofFault_ok,
    Result.ok_bind, List.foldlM_map]
  exact Result.foldlM_eq_ok_foldl each s

theorem foldl_putColumn (listed : List (List (Value × Value))) (s : Schema) :
    listed.foldl putColumn s =
      { s with
        columns := listed.foldl (NameMap.put (textField "name") describedColumn) s.columns } := by
  induction listed generalizing s with
  | nil => rfl
  | cons described rest ih => exact ih (putColumn s described)

theorem foldl_putIndex (listed : List (List (Value × Value))) (s : Schema) :
    listed.foldl putIndex s = { s with indexes := s.indexes ++ listed.map describedIndex } := by
  induction listed generalizing s with
  | nil => simp
  | cons described rest ih => simp [ih, putIndex]

theorem foldl_putForeignKey (listed : List (List (Value × Value))) (s : Schema) :
    listed.foldl putForeignKey s =
      { s with foreignKeys := s.foreignKeys ++ listed.map describedForeignKey } := by
  induction listed generalizing s with
  | nil => simp
  | cons described rest ih => simp [ih, putForeignKey]

/-- The schema that the description of a table describes is written part by part. -/
theorem describedTable_eq_foldl (entries : List (Value × Value)) :
    describedTable entries =
      (mappings .foreignKey entries).foldl putForeignKey
        ((mappings .index entries).foldl putIndex
          ((mappings .column entries).foldl putColumn
            { baseName := Value.field entries "table"
              tablePrefix := (Value.field entries "prefix").orElse .null })) := by
  rw [foldl_putColumn, foldl_putIndex, foldl_putForeignKey]
  rfl

/-- A typed description of a table that is acceptable means the schema that it describes. -/
theorem IsTypedTable.table_eq_describedTable (typed : IsTypedTable entries)
    (acceptable : IsAcceptableTable entries) :
    table (.map entries) = .ok (describedTable entries) := by
  have given : (Value.field entries "table").given? = some (Value.field entries "table") :=
    given?_name_eq acceptable.own
  have columns (s : Schema) :
      addParts addColumn s (Value.field entries "columns") =
        .ok ((mappings .column entries).foldl putColumn s) :=
    addParts_of_acceptable (typed.lists .column (by decide)) (fun described member =>
      addColumn_of_acceptable (typed.parts .column (by decide) described member)
        (acceptable.parts .column (by decide) described member)) s
  have indexes (s : Schema) :
      addParts addIndex s (Value.field entries "indexes") =
        .ok ((mappings .index entries).foldl putIndex s) :=
    addParts_of_acceptable (typed.lists .index (by decide)) (fun described member =>
      addIndex_of_acceptable (acceptable.parts .index (by decide) described member)) s
  have foreignKeys (s : Schema) :
      addParts addForeignKey s (Value.field entries "foreign_keys") =
        .ok ((mappings .foreignKey entries).foldl putForeignKey s) :=
    addParts_of_acceptable (typed.lists .foreignKey (by decide)) (fun described member =>
      addForeignKey_of_acceptable (acceptable.parts .foreignKey (by decide) described member)) s
  simp only [table, description_of_acceptable acceptable.own, given, columns, indexes, foreignKeys,
    Result.ok_bind]
  rw [describedTable_eq_foldl]

end Table

end TableDdl.Loading
