import TableDdl.Proofs.Ddl.Composite
import TableDdl.Proofs.Schema.Types

/-!
# Complete renderings

A rendering is what the clauses of a schema come to. It is complete if every column shows a type,
there is one clause of the primary key at most, the keys are on columns that are listed, and every
foreign key says what it refers to. In a schema with texts for names a rendering is complete
exactly if the checks find nothing. But the checks do not ask for a rendering: they also find
nothing where the size of a column has too many digits to be written.
-/

namespace TableDdl

open Ddl

/-- The texts that the clauses of a schema come to, part by part. -/
structure Rendering where
  columns : List String
  primaryKey : List String
  indexes : List String
  foreignKeys : List String

namespace Rendering

/-- The clause of a column goes on behind its name, and behind a space, with something else than a
space. -/
def ShowsType (name clause : String) : Prop :=
  ∃ first rest, clause.toList = name.toList ++ ' ' :: first :: rest ∧ first ≠ ' '

/-- The clause of a foreign key is on a column of the given names, and refers to a column of a
table. -/
def Refers (names : List Value) (fk : ForeignKey) (clause : String) : Prop :=
  ∃ column table other actions,
    fk.column = .str column ∧ fk.referenceTable = .str table ∧ fk.referenceColumn = .str other ∧
      clause = "FOREIGN KEY " ++ fk.keyName.string ++ "(" ++ column ++ ") REFERENCES " ++ table ++
        "(" ++ other ++ ")" ++ actions ∧
      .str column ∈ names ∧ table ≠ "" ∧ other ≠ ""

/-- The rendering of a schema is complete. -/
structure IsComplete (r : Rendering) (s : Schema) : Prop where
  typed : List.Forall₂ (fun c clause => ShowsType c.name.string clause) s.columnList r.columns
  onePrimary : r.primaryKey.length ≤ 1
  primaryListed : ∀ clause ∈ r.primaryKey,
    ∃ column, clause = "PRIMARY KEY (" ++ column ++ ")" ∧ .str column ∈ s.columnNames
  /-- Each index has a clause with the columns of its entries. -/
  indexesListed : List.Forall₂
    (fun t clause => ∃ columns, (s.entriesOf t).map (·.column) = columns.map .str ∧
      clause = t.clause columns ∧ ∀ column ∈ columns, .str column ∈ s.columnNames)
    s.indexTitles r.indexes
  referring : List.Forall₂ (Refers s.columnNames) s.foreignKeys r.foreignKeys

end Rendering

open Rendering

/-- The clauses of a schema come to a rendering. -/
structure Schema.Renders (s : Schema) (r : Rendering) : Prop where
  columns : s.columnClauses = .ok r.columns
  primaryKey : s.primaryKeyClauses = .ok r.primaryKey
  indexes : s.indexClauses = .ok r.indexes
  foreignKeys : s.foreignKeyClauses = .ok r.foreignKeys

/-- The checks find nothing exactly if the schema has a rendering that is complete. -/
def Schema.ChecksDecide (s : Schema) : Prop :=
  ∃ found, s.issues = .ok found ∧ (found = [] ↔ ∃ r, s.Renders r ∧ r.IsComplete s)

namespace Ddl

/-- A size stands behind a type, and only behind one. -/
theorem exists_size_of_typeText {type sized : String} {length precision : Option Int}
    (written : typeText type length precision = .ok sized) :
    ∃ size, sized = type ++ size ∧ (type = "" → size = "") := by
  cases length with
  | none =>
    cases written
    exact ⟨"", by simp, fun _ => rfl⟩
  | some n =>
    by_cases sizable : type ∈ sizedTypes
    · have some_ : type ≠ "" := by
        rintro rfl
        revert sizable
        decide
      simp only [typeText, sizable, not_true_eq_false, if_false] at written
      cases given : precision.filter fun _ => decide (type ∈ precisionTypes) with
      | none =>
        rw [given] at written
        obtain ⟨digits, -, rest⟩ := Result.bind_eq_ok_iff.mp written
        cases rest
        exact ⟨"(" ++ digits ++ ")", by simp [String.append_assoc], fun none => absurd none some_⟩
      | some p =>
        rw [given] at written
        obtain ⟨digits, -, rest⟩ := Result.bind_eq_ok_iff.mp written
        obtain ⟨further, -, rest⟩ := Result.bind_eq_ok_iff.mp rest
        cases rest
        exact ⟨"(" ++ digits ++ "," ++ further ++ ")", by simp [String.append_assoc],
          fun none => absurd none some_⟩
    · simp only [typeText, sizable, not_false_eq_true, if_true] at written
      cases written
      exact ⟨"", by simp, fun _ => rfl⟩

end Ddl

/-- The clause of a column is its name, its type with a size, if it has a type, and what is said
beside it. -/
theorem Column.exists_clause_eq {c : Column} {clause name : String} (named : c.name = .str name)
    (written : c.clause = .ok clause) :
    ∃ size rest, clause.toList =
      name.toList ++ ' ' :: (c.normalizedType.toList ++ size ++ ' ' :: rest) ∧
        (c.normalizedType = "" → size = []) := by
  obtain ⟨_, spelled, written⟩ := Result.bind_eq_ok_iff.mp written
  obtain ⟨sized, typed, written⟩ := Result.bind_eq_ok_iff.mp written
  rw [named, Value.text_str] at spelled
  cases spelled
  cases written
  obtain ⟨size, rfl, bare⟩ := exists_size_of_typeText typed
  -- Whether it is signed and whether it may be null is said behind a space.
  obtain ⟨beside, start⟩ : ∃ beside, (if c.isUnsigned then " UNSIGNED" else "") ++
      (if c.nullable then " NULL" else " NOT NULL") = " " ++ beside := by
    cases c.isUnsigned <;> cases c.nullable
    · exact ⟨"NOT NULL", rfl⟩
    · exact ⟨"NULL", rfl⟩
    · exact ⟨"UNSIGNED NOT NULL", rfl⟩
    · exact ⟨"UNSIGNED NULL", rfl⟩
  refine ⟨size.toList, (beside ++ ((if c.autoIncrement then " AUTO_INCREMENT" else "") ++
    Ddl.defaultText c.normalizedType c.defaultText)).toList, ?_, fun untyped => ?_⟩
  · have joined (a d e : String) : a ++ (if c.isUnsigned then " UNSIGNED" else "") ++
        (if c.nullable then " NULL" else " NOT NULL") ++ d ++ e =
          a ++ (" " ++ beside) ++ (d ++ e) := by
      rw [← start]
      simp only [String.append_assoc]
    rw [joined]
    simp
  · rw [bare untyped]
    rfl

namespace Rendering

/-- The clause of a column shows a type exactly if the column has one. -/
theorem showsType_iff {c : Column} {clause : String} (textual : c.name.isText = true)
    (written : c.clause = .ok clause) :
    ShowsType c.name.string clause ↔ c.normalizedType ≠ "" := by
  obtain ⟨size, rest, same, bare⟩ :=
    Column.exists_clause_eq (Value.eq_str_string textual) written
  rw [ShowsType, same]
  constructor
  · rintro ⟨first, others, split, other⟩ untyped
    rw [bare untyped, untyped] at split
    have cut := List.cons.inj (List.append_cancel_left split)
    exact other (List.cons.inj cut.2).1.symm
  · intro typed
    obtain ⟨first, others, start, other⟩ := Column.exists_normalizedType_eq_cons typed
    exact ⟨first, others ++ size ++ ' ' :: rest, by rw [start]; rfl, other⟩

variable {s : Schema}

/-- The clause of a foreign key is as it should be exactly if the key passes the checks. -/
theorem refers_iff (named : s.WellNamed) {fk : ForeignKey} {clause : String}
    (textual : fk.IsTextual) (written : fk.clause = .ok clause) :
    Refers s.columnNames fk clause ↔
      s.hasColumn fk.column = .ok true ∧ fk.isResolved = true := by
  constructor
  · rintro ⟨column, table, other, actions, onColumn, toTable, toOther, -, listed, given, given'⟩
    rw [onColumn, named.hasColumn_str_iff_listed, ForeignKey.isResolved, toTable, toOther]
    simp [listed, given, given']
  · rintro ⟨known, resolved⟩
    obtain ⟨toTable, toOther⟩ := Bool.and_eq_true_iff.mp resolved
    have onColumn := Value.eq_str_string textual.column
    have table := Value.eq_str_string
      (Value.isText_of_isOptionalText textual.referenceTable toTable)
    have other := Value.eq_str_string
      (Value.isText_of_isOptionalText textual.referenceColumn toOther)
    have keyName := Value.eq_str_string textual.keyName
    rw [onColumn, named.hasColumn_str_iff_listed] at known
    rw [table, Value.isTruthy_str, bne_iff_ne] at toTable
    rw [other, Value.isTruthy_str, bne_iff_ne] at toOther
    simp only [ForeignKey.clause, Result.bind_eq_ok_iff] at written
    obtain ⟨_, h1, _, h2, _, h3, _, h4, update, -, delete, -, written⟩ := written
    rw [keyName, Value.text_str] at h1
    rw [onColumn, Value.text_str] at h2
    rw [table, Value.text_str] at h3
    rw [other, Value.text_str] at h4
    cases h1
    cases h2
    cases h3
    cases h4
    cases written
    exact ⟨_, _, _, update ++ delete, onColumn, table, other, by rw [String.append_assoc],
      known, toTable, toOther⟩

/-- The clause of an entry of the primary key names a column that is listed exactly if there is
one of that name. -/
theorem primaryListed_iff (named : s.WellNamed) {i : Index} {clause : String}
    (textual : i.IsTextual) (written : i.primaryClause = .ok clause) :
    (∃ column, clause = "PRIMARY KEY (" ++ column ++ ")" ∧ .str column ∈ s.columnNames) ↔
      s.hasColumn i.column = .ok true := by
  obtain ⟨name, onColumn⟩ := Value.isText_iff.mp textual.column
  rw [Index.primaryClause_eq, onColumn, Value.text_str] at written
  cases written
  rw [onColumn, named.hasColumn_str_iff_listed]
  constructor
  · rintro ⟨column, same, listed⟩
    have own : name = column := by simpa [primaryKeyClause] using same
    exact own ▸ listed
  · intro listed
    exact ⟨_, rfl, listed⟩

/-- Every index has the columns of its entries in its clause, so they are listed exactly if each
entry outside the primary key is on a column that is there. -/
theorem indexesListed_iff (named : s.WellNamed) (textual : ∀ i ∈ s.indexes, i.IsTextual) :
    List.Forall₂
        (fun t clause => ∃ columns, (s.entriesOf t).map (·.column) = columns.map .str ∧
          clause = t.clause columns ∧ ∀ column ∈ columns, .str column ∈ s.columnNames)
        s.indexTitles s.compositeClauses ↔
      ∀ i ∈ s.secondaryEntries, s.hasColumn i.column = .ok true := by
  have texts (t : IndexTitle) : (s.entriesOf t).map (·.column) =
      ((s.entriesOf t).map (·.column.string)).map .str := by
    rw [List.map_map]
    apply List.map_congr_left
    intro i member
    exact Value.eq_str_string (textual i (List.mem_of_mem_filter member)).column
  rw [Schema.compositeClauses, List.forall₂_map_right_iff, List.forall₂_same]
  constructor
  · intro all i member
    obtain ⟨there, secondary⟩ := List.mem_filter.mp member
    have outside : i.isPrimary = false := by simpa using secondary
    have titled : i.title ∈ s.indexTitles :=
      IndexGroup.mem_titles.mpr ⟨i, there, outside, rfl⟩
    obtain ⟨columns, same, -, listed⟩ := all i.title titled
    have own : i ∈ s.entriesOf i.title :=
      List.mem_filter.mpr ⟨there, Index.belongsTo_iff.mpr ⟨outside, rfl⟩⟩
    obtain ⟨column, inside, text⟩ := List.mem_map.mp (same ▸ List.mem_map_of_mem own)
    rw [← text, named.hasColumn_str_iff_listed]
    exact listed column inside
  · intro known t _
    refine ⟨_, texts t, rfl, fun column inside => ?_⟩
    obtain ⟨i, member, rfl⟩ := List.mem_map.mp inside
    obtain ⟨there, belongs⟩ := List.mem_filter.mp member
    have outside := (Index.belongsTo_iff.mp belongs).1
    have found := known i (List.mem_filter.mpr ⟨there, by simp [outside]⟩)
    rwa [Value.eq_str_string (textual i there).column, named.hasColumn_str_iff_listed] at found

end Rendering

namespace Schema

variable {s : Schema} {r : Rendering}

/-- All clauses of a schema are those of its rendering, part by part. -/
theorem clauses_eq_ok_iff {clauses : List String} :
    s.clauses = .ok clauses ↔ ∃ r, s.Renders r ∧
      clauses = r.columns ++ r.primaryKey ++ r.indexes ++ r.foreignKeys := by
  simp only [Schema.clauses, Result.bind_eq_ok_iff, Result.pure_eq_ok, Except.ok.injEq]
  constructor
  · rintro ⟨columns, h1, primaryKey, h2, indexes, h3, foreignKeys, h4, rfl⟩
    exact ⟨⟨columns, primaryKey, indexes, foreignKeys⟩, ⟨h1, h2, h3, h4⟩, rfl⟩
  · rintro ⟨r, ⟨h1, h2, h3, h4⟩, rfl⟩
    exact ⟨_, h1, _, h2, _, h3, _, h4, rfl⟩

namespace IsTextual

/-- A schema with texts for names has a rendering exactly if the sizes that are written are short
enough. -/
theorem exists_renders_iff (textual : s.IsTextual) :
    (∃ r, s.Renders r) ↔ ∀ c ∈ s.columnList, c.WritableSizes := by
  have written : (∃ clauses, s.clauses = .ok clauses) ↔ ∃ r, s.Renders r := by
    simp only [clauses_eq_ok_iff]
    constructor
    · rintro ⟨-, r, renders, -⟩
      exact ⟨r, renders⟩
    · rintro ⟨r, renders⟩
      exact ⟨_, r, renders, rfl⟩
  rw [← written, exists_clauses_iff]
  exact and_iff_right textual.exists_outline

/-- The checks find nothing in a schema that has a rendering exactly if the rendering is
complete. -/
theorem issues_nil_iff_isComplete (textual : s.IsTextual) (named : s.WellNamed)
    (renders : s.Renders r) : s.issues = .ok [] ↔ r.IsComplete s := by
  have typed : (∀ c ∈ s.columnList, c.normalizedType ≠ "") ↔
      List.Forall₂ (fun c clause => ShowsType c.name.string clause) s.columnList r.columns :=
    Result.forall_mem_iff_forall₂_of_mapM renders.columns fun c member clause written =>
      (showsType_iff (textual.columns c member) written).symm
  have count : r.primaryKey.length = s.primaryEntries.length :=
    (Result.mapM_eq_ok_iff.mp renders.primaryKey).length_eq.symm
  have primary : (∀ i ∈ s.primaryEntries, s.hasColumn i.column = .ok true) ↔
      ∀ clause ∈ r.primaryKey,
        ∃ column, clause = "PRIMARY KEY (" ++ column ++ ")" ∧ .str column ∈ s.columnNames :=
    Result.forall_mem_iff_of_mapM renders.primaryKey fun i member clause written =>
      (primaryListed_iff named (textual.indexes i (List.mem_of_mem_filter member)) written).symm
  have indexes := indexesListed_iff named textual.indexes
  have composed : s.compositeClauses = r.indexes :=
    Except.ok.inj ((indexClauses_eq textual.indexes).symm.trans renders.indexes)
  rw [composed] at indexes
  have keys : (∀ fk ∈ s.foreignKeys, s.hasColumn fk.column = .ok true ∧ fk.isResolved = true) ↔
      List.Forall₂ (Refers s.columnNames) s.foreignKeys r.foreignKeys :=
    Result.forall_mem_iff_forall₂_of_mapM renders.foreignKeys fun fk member clause written =>
      (refers_iff named (textual.foreignKeys fk member) written).symm
  rw [issues_eq_ok_nil_iff]
  constructor
  · intro consistent
    refine ⟨typed.mp consistent.typed, count ▸ consistent.onePrimary, primary.mp ?_, indexes.mpr ?_,
      keys.mp fun fk member => ⟨consistent.tied fk member, consistent.resolved fk member⟩⟩
    · exact fun i member => consistent.indexed i (List.mem_of_mem_filter member)
    · exact fun i member => consistent.indexed i (List.mem_of_mem_filter member)
  · intro complete
    have tied := keys.mpr complete.referring
    refine ⟨typed.mpr complete.typed, count ▸ complete.onePrimary, fun i member => ?_,
      fun fk member => (tied fk member).1, fun fk member => (tied fk member).2⟩
    rcases mem_indexes_iff.mp member with inside | outside
    · exact primary.mpr complete.primaryListed i inside
    · exact indexes.mp complete.indexesListed i outside

/-- The checks decide whether there is a complete rendering, unless they find nothing where a size
is too long. -/
theorem checksDecide_iff (textual : s.IsTextual) (named : s.WellNamed) :
    s.ChecksDecide ↔ (s.issues = .ok [] → ∀ c ∈ s.columnList, c.WritableSizes) := by
  obtain ⟨found, ended⟩ := exists_issues_iff.mpr textual.checkable
  rw [← textual.exists_renders_iff, ended, Except.ok.injEq]
  constructor
  · rintro ⟨_, ended', decided⟩ none
    cases ended.symm.trans ended'
    obtain ⟨r, renders, -⟩ := decided.mp none
    exact ⟨r, renders⟩
  · intro rendered
    refine ⟨found, ended, fun none => ?_, ?_⟩
    · obtain ⟨r, renders⟩ := rendered none
      have clear : s.issues = .ok [] := none ▸ ended
      exact ⟨r, renders, (textual.issues_nil_iff_isComplete named renders).mp clear⟩
    · rintro ⟨r, renders, complete⟩
      have clear := (textual.issues_nil_iff_isComplete named renders).mpr complete
      exact Except.ok.inj (ended.symm.trans clear)

end IsTextual

end Schema

end TableDdl
