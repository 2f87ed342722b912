import TableDdl.Proofs.Loading.Demands

/-!
# Typed descriptions

A description is typed if its fields are named by texts and hold what they are meant for: texts for
names, types, defaults and actions, whole numbers or texts for sizes, and lists of mappings for the
parts. Of a typed description nothing is demanded that would not be reported, so it is either
accepted or refused for a reason; and which of the two is said in terms of its fields.
-/

namespace TableDdl

namespace Value

/-- Whether the value is a size: null, a whole number or a text. -/
def isSize : Value → Bool
  | .null | .int _ | .str _ => true
  | _ => false

/-- The value is null or a list of mappings. -/
def IsMappings (v : Value) : Prop :=
  v = .null ∨ ∃ listed : List (List (Value × Value)), v = .list (listed.map .map)

/-- The value is a text that is not empty. -/
def IsNonemptyText (v : Value) : Prop :=
  ∃ s, v = .str s ∧ s ≠ ""

theorem isTruthy_iff_isNonemptyText {v : Value} (text : v.isOptionalText = true) :
    v.isTruthy = true ↔ v.IsNonemptyText := by
  rcases isOptionalText_iff.mp text with rfl | ⟨s, rfl⟩
  · simp [IsNonemptyText]
  · simp [IsNonemptyText]

theorem nameable_of_isOptionalText {v : Value} (text : v.isOptionalText = true) : v.Nameable := by
  rcases isOptionalText_iff.mp text with rfl | ⟨s, rfl⟩
  · exact ⟨_, rfl⟩
  · exact nameable_str s

end Value

namespace Part

/-- The field with the name of a part or, for the parts of keys, of their column. -/
def nameField : Part → String
  | .table => "table"
  | .column => "name"
  | .index | .foreignKey => "column"

/-- The field in which parts are listed. -/
def listField : Part → String
  | .table => "tables"
  | .column => "columns"
  | .index => "indexes"
  | .foreignKey => "foreign_keys"

/-- The fields that are meant for texts. -/
def textFields : Part → List String
  | .table => ["table"]
  | .column => ["name", "type", "default"]
  | .index => ["column", "key_name"]
  | .foreignKey => ["column", "key_name", "reference_table", "reference_column", "on_update",
      "on_delete"]

theorem nameField_mem_textFields (part : Part) : part.nameField ∈ part.textFields := by
  cases part <;> decide

end Part

namespace Loading

variable {part : Part} {entries : List (Value × Value)} {named : Prop}

/-- The fields of a description hold what they are meant for. -/
structure IsTyped (part : Part) (entries : List (Value × Value)) : Prop where
  keys : ∀ entry ∈ entries, entry.1.isText = true
  texts : ∀ name ∈ part.textFields, (Value.field entries name).isOptionalText = true
  sizes : part = .column → ∀ size : SizeField, (Value.field entries size.label).isSize = true
  kind : part = .index → (kindOf entries).isText = true

instance (part : Part) (entries : List (Value × Value)) : Decidable (IsTyped part entries) :=
  decidable_of_iff
    ((∀ entry ∈ entries, entry.1.isText = true) ∧
      (∀ name ∈ part.textFields, (Value.field entries name).isOptionalText = true) ∧
      (part = .column → ∀ size ∈ [SizeField.length, .precision],
        (Value.field entries size.label).isSize = true) ∧
      (part = .index → (kindOf entries).isText = true))
    ⟨fun ⟨keys, texts, sizes, kind⟩ =>
        ⟨keys, texts, fun column size => sizes column size (by cases size <;> decide), kind⟩,
      fun ⟨keys, texts, sizes, kind⟩ => ⟨keys, texts, fun column size _ => sizes column size, kind⟩⟩

/-- The fields of a description are known, and what they hold can be made use of. -/
structure IsAcceptable (part : Part) (entries : List (Value × Value)) : Prop where
  known : ∀ entry ∈ entries, IsField part entry.1
  named : (Value.field entries part.nameField).IsNonemptyText
  sizes : part = .column → ∀ (size : SizeField) (s : String),
    Value.field entries size.label = .str s → ∃ n, Number.integerOfText s = .ok n
  kind : part = .index → ∃ word, kindOf entries = .str word ∧ Text.lower word ∈ listedKinds

/-- The descriptions that a table lists for parts of one sort. -/
def mappings (part : Part) (entries : List (Value × Value)) : List (List (Value × Value)) :=
  (parts (Value.field entries part.listField)).map Value.entries

/-- The description of a table is typed, and so are those of its parts. -/
structure IsTypedTable (entries : List (Value × Value)) : Prop where
  own : IsTyped .table entries
  lists : ∀ part : Part, part ≠ .table → (Value.field entries part.listField).IsMappings
  parts : ∀ part : Part, part ≠ .table → ∀ described ∈ mappings part entries, IsTyped part described

/-- The description of a table is acceptable, and so are those of its parts. -/
structure IsAcceptableTable (entries : List (Value × Value)) : Prop where
  own : IsAcceptable .table entries
  parts : ∀ part : Part, part ≠ .table →
    ∀ described ∈ mappings part entries, IsAcceptable part described

theorem met_describes_iff : (describes part (.map entries)).met ↔
    ∀ entry ∈ entries, IsField part entry.1 := by
  simp [describes]

namespace IsTyped

theorem reported_describes (typed : IsTyped part entries) :
    (describes part (.map entries)).reported :=
  typed.keys

theorem isTruthy_nameField_iff (typed : IsTyped part entries) :
    (Value.field entries part.nameField).isTruthy = true ↔
      (Value.field entries part.nameField).IsNonemptyText :=
  Value.isTruthy_iff_isNonemptyText (typed.texts _ part.nameField_mem_textFields)

theorem writable (typed : IsTyped part entries) {name : String} (text : name ∈ part.textFields) :
    (Value.field entries name).Writable :=
  Value.writable_of_isOptionalText (typed.texts name text)

end IsTyped

/-- A size is a whole number unless it is a text that is none. -/
theorem met_sizeDemand_iff {column size : Value} (typed : size.isSize = true) :
    (sizeDemand column size).met ↔ ∀ s, size = .str s → ∃ n, Number.integerOfText s = .ok n := by
  cases size with
  | null => simp [sizeDemand, Value.isNull]
  | int n => simp [sizeDemand, wholeNumber]
  | str s =>
    simp only [sizeDemand, Value.isNull, wholeNumber, Value.str.injEq, forall_eq']
    cases Number.integerOfText s <;> simp [Except.toOption]
  | _ => cases typed

theorem met_or_reported_sizeDemand {column size : Value} (typed : size.isSize = true)
    (sayable : column.Writable) :
    (sizeDemand column size).met ∨ (sizeDemand column size).reported := by
  cases size with
  | null => exact .inl (.inl rfl)
  | int n => exact .inl (.inr ⟨n, rfl⟩)
  | str s => exact .inr ⟨rfl, Value.writable_str s, sayable⟩
  | _ => cases typed

theorem exists_kindOfWord?_iff {word : String} :
    (∃ kind, kindOfWord? word = some kind) ↔ word ∈ listedKinds := by
  unfold kindOfWord?
  split <;> simp_all [listedKinds]

theorem namesKind_str_iff {word : String} :
    NamesKind (.str word) ↔ Text.lower word ∈ listedKinds := by
  rw [← exists_kindOfWord?_iff]
  constructor
  · rintro ⟨other, kind, same, found⟩
    cases same
    exact ⟨kind, found⟩
  · rintro ⟨kind, found⟩
    exact ⟨word, kind, rfl, found⟩

section Met

theorem met_columnDemands_iff (typed : IsTyped .column entries) :
    (∀ d ∈ columnDemands named (.map entries), d.met) ↔ IsAcceptable .column entries := by
  have size (size : SizeField) :
      (sizeDemand (Value.field entries "name") (Value.field entries size.label)).met ↔ _ :=
    met_sizeDemand_iff (typed.sizes rfl size)
  simp only [columnDemands, List.forall_mem_cons]
  constructor
  · rintro ⟨described, given, -, -, length, precision, -, -⟩
    refine ⟨met_describes_iff.mp described, typed.isTruthy_nameField_iff.mp given,
      fun _ which => ?_, by simp⟩
    cases which with
    | length => exact (size .length).mp length
    | precision => exact (size .precision).mp precision
  · rintro ⟨known, given, sizes, -⟩
    exact ⟨met_describes_iff.mpr known, typed.isTruthy_nameField_iff.mpr given,
      Value.nameable_of_isOptionalText (typed.texts "name" (by decide)),
      typed.writable (by decide), (size .length).mpr (sizes rfl .length),
      (size .precision).mpr (sizes rfl .precision), typed.writable (by decide), by simp⟩

theorem met_indexDemands_iff (typed : IsTyped .index entries) :
    (∀ d ∈ indexDemands named (.map entries), d.met) ↔ IsAcceptable .index entries := by
  obtain ⟨word, kind⟩ := Value.isText_iff.mp (typed.kind rfl)
  simp only [indexDemands, List.forall_mem_cons, Value.entries, kind, namesKind_str_iff]
  constructor
  · rintro ⟨described, given, -, listed, -⟩
    exact ⟨met_describes_iff.mp described, typed.isTruthy_nameField_iff.mp given,
      by simp, fun _ => ⟨word, kind, listed⟩⟩
  · rintro ⟨known, given, -, named⟩
    obtain ⟨other, same, listed⟩ := named rfl
    cases kind.symm.trans same
    exact ⟨met_describes_iff.mpr known, typed.isTruthy_nameField_iff.mpr given,
      Value.writable_str word, listed, fun _ => typed.writable (by decide), by simp⟩

theorem met_foreignKeyDemands_iff (typed : IsTyped .foreignKey entries) :
    (∀ d ∈ foreignKeyDemands named (.map entries), d.met) ↔ IsAcceptable .foreignKey entries := by
  simp only [foreignKeyDemands, List.forall_mem_cons]
  constructor
  · rintro ⟨described, given, -⟩
    exact ⟨met_describes_iff.mp described, typed.isTruthy_nameField_iff.mp given,
      by simp, by simp⟩
  · rintro ⟨known, given, -, -⟩
    exact ⟨met_describes_iff.mpr known, typed.isTruthy_nameField_iff.mpr given,
      fun _ => typed.writable (by decide), by simp⟩

end Met

section Reported

theorem met_or_reported_columnDemands (typed : IsTyped .column entries) (sayable : named) :
    ∀ d ∈ columnDemands named (.map entries), d.met ∨ d.reported := by
  have column : (Value.field entries "name").Writable := typed.writable (by decide)
  simp only [columnDemands, List.forall_mem_cons]
  exact ⟨.inr typed.reported_describes, .inr sayable,
    .inl (Value.nameable_of_isOptionalText (typed.texts "name" (by decide))),
    .inl (typed.writable (by decide)),
    met_or_reported_sizeDemand (typed.sizes rfl .length) column,
    met_or_reported_sizeDemand (typed.sizes rfl .precision) column,
    .inl (typed.writable (by decide)), by simp⟩

theorem met_or_reported_indexDemands (typed : IsTyped .index entries) (sayable : named) :
    ∀ d ∈ indexDemands named (.map entries), d.met ∨ d.reported := by
  have column : (Value.field entries "column").Writable := typed.writable (by decide)
  simp only [indexDemands, List.forall_mem_cons]
  exact ⟨.inr typed.reported_describes, .inr sayable,
    .inl (Value.writable_of_isText (typed.kind rfl)), .inr column, .inl fun _ => column, by simp⟩

theorem met_or_reported_foreignKeyDemands (typed : IsTyped .foreignKey entries) (sayable : named) :
    ∀ d ∈ foreignKeyDemands named (.map entries), d.met ∨ d.reported := by
  simp only [foreignKeyDemands, List.forall_mem_cons]
  exact ⟨.inr typed.reported_describes, .inr sayable,
    .inl fun _ => typed.writable (by decide), by simp⟩

end Reported

section Table

theorem elements_of_isMappings (listed : (Value.field entries part.listField).IsMappings) :
    elements (Value.field entries part.listField) = .ok ((mappings part entries).map .map) := by
  unfold mappings parts
  rcases listed with null | ⟨listed, same⟩
  · rw [null]
    rfl
  · rw [same]
    cases listed with
    | nil => rfl
    | cons described rest => simp [elements, Value.isTruthy, Value.entries, Except.toOption]

theorem parts_of_isMappings (listed : (Value.field entries part.listField).IsMappings) :
    parts (Value.field entries part.listField) = (mappings part entries).map .map :=
  parts_of_ok (elements_of_isMappings listed)

/-- What holds of the demands of a list of parts: it holds of the demand that they are a list, and
of the demands of the parts. -/
theorem forall_mem_partsDemands {each : Value → List Demand} {P : Demand → Prop}
    (listed : (Value.field entries part.listField).IsMappings)
    (gone : ∀ p : Prop, p → P (.silent p)) :
    (∀ d ∈ partsDemands each (Value.field entries part.listField), P d) ↔
      ∀ described ∈ mappings part entries, ∀ d ∈ each (.map described), P d := by
  have list : (Value.field entries part.listField).isTruthy = true →
      (Value.field entries part.listField).isCollection = true := by
    rcases listed with null | ⟨listed, same⟩
    · simp [null]
    · simp [same, Value.isCollection]
  rw [partsDemands, parts_of_isMappings listed, List.forall_mem_cons, and_iff_right (gone _ list)]
  simp only [List.flatMap_map, List.mem_flatMap, forall_exists_index, and_imp]
  exact forall_comm.trans (forall_congr' fun described => forall_comm)

variable {P : Demand → Prop}

/-- What holds of the demands of a table: it holds of those that the mapping itself makes, and of
the demands of all parts. -/
theorem IsTypedTable.forall_mem_tableDemands (typed : IsTypedTable entries)
    (gone : ∀ p : Prop, p → P (.silent p)) :
    (∀ d ∈ tableDemands (.map entries), P d) ↔
      P (describes .table (.map entries)) ∧
        P ⟨(Value.field entries "table").isTruthy = true, True⟩ ∧
        (∀ described ∈ mappings .column entries,
          ∀ d ∈ columnDemands (IsNamed entries) (.map described), P d) ∧
        (∀ described ∈ mappings .index entries,
          ∀ d ∈ indexDemands (IsNamed entries) (.map described), P d) ∧
        ∀ described ∈ mappings .foreignKey entries,
          ∀ d ∈ foreignKeyDemands (IsNamed entries) (.map described), P d := by
  rw [← forall_mem_partsDemands (typed.lists .column (by decide)) gone,
    ← forall_mem_partsDemands (typed.lists .index (by decide)) gone,
    ← forall_mem_partsDemands (typed.lists .foreignKey (by decide)) gone]
  simp only [tableDemands, List.forall_mem_cons, List.forall_mem_append]
  rfl

theorem IsTypedTable.met_tableDemands_iff (typed : IsTypedTable entries) :
    (∀ d ∈ tableDemands (.map entries), d.met) ↔ IsAcceptableTable entries := by
  rw [typed.forall_mem_tableDemands fun _ holds => holds]
  constructor
  · rintro ⟨described, given, columns, indexes, foreignKeys⟩
    refine ⟨⟨met_describes_iff.mp described, typed.own.isTruthy_nameField_iff.mp given,
      by simp, by simp⟩, ?_⟩
    intro part other described member
    have own := typed.parts part other described member
    cases part with
    | table => exact absurd rfl other
    | column => exact (met_columnDemands_iff own).mp (columns described member)
    | index => exact (met_indexDemands_iff own).mp (indexes described member)
    | foreignKey => exact (met_foreignKeyDemands_iff own).mp (foreignKeys described member)
  · rintro ⟨⟨known, given, -, -⟩, parts⟩
    refine ⟨met_describes_iff.mpr known, typed.own.isTruthy_nameField_iff.mpr given, ?_, ?_, ?_⟩
    · intro described member
      exact (met_columnDemands_iff (typed.parts .column (by decide) described member)).mpr
        (parts .column (by decide) described member)
    · intro described member
      exact (met_indexDemands_iff (typed.parts .index (by decide) described member)).mpr
        (parts .index (by decide) described member)
    · intro described member
      exact (met_foreignKeyDemands_iff (typed.parts .foreignKey (by decide) described member)).mpr
        (parts .foreignKey (by decide) described member)

/-- What a typed description of a table demands is reported if it is not met, as long as what is
put in front of the name can be written. -/
theorem IsTypedTable.met_or_reported_tableDemands (typed : IsTypedTable entries)
    (front : (Value.field entries "prefix").Writable) :
    ∀ d ∈ tableDemands (.map entries), d.met ∨ d.reported := by
  have named : IsNamed entries := ⟨front, typed.own.writable (by decide)⟩
  rw [typed.forall_mem_tableDemands fun _ => .inl]
  refine ⟨.inr typed.own.reported_describes, .inr trivial, ?_, ?_, ?_⟩
  · intro described member
    exact met_or_reported_columnDemands (typed.parts .column (by decide) described member) named
  · intro described member
    exact met_or_reported_indexDemands (typed.parts .index (by decide) described member) named
  · intro described member
    exact met_or_reported_foreignKeyDemands
      (typed.parts .foreignKey (by decide) described member) named

/-- A typed description of a table is accepted exactly if it is acceptable. -/
theorem IsTypedTable.exists_table_iff (typed : IsTypedTable entries) :
    (∃ s, table (.map entries) = .ok s) ↔ IsAcceptableTable entries := by
  rw [(table_decides _).exists_ok_iff, typed.met_tableDemands_iff]

/-- A typed description of a table that is not accepted is refused for a reason. -/
theorem IsTypedTable.documented_table (typed : IsTypedTable entries)
    (front : (Value.field entries "prefix").Writable) : Documented (table (.map entries)) :=
  (table_decides _).documented_of_forall (typed.met_or_reported_tableDemands front)

end Table

end Loading

end TableDdl
