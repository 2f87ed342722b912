import TableDdl.Proofs.Schema.Latest
import TableDdl.Proofs.Schema.Report

/-!
# Schemas without a column

When a column is taken out of a schema, its missing type is gone from the report, and every key on
the column is reported in its turn, among the others of its kind. When a column with a type is
declared in its place, the keys on it are fine again.
-/

namespace TableDdl.Schema

variable {s : Schema} {n : String} {r : Report}

/-- The schema without a column. -/
def without (s : Schema) (n : String) : Schema :=
  { s with columns := s.columns.erase (.text n) }

/-- The schema with a column under a name. -/
def declared (s : Schema) (n : String) (c : Column) : Schema :=
  { s with columns := s.columns.insert (.text n) (.str n) c }

section Columns

theorem columnList_without (named : s.WellNamed) :
    (s.without n).columnList = s.columnList.filter fun c => !c.name.isSameName (.str n) := by
  have other : ∀ e ∈ s.columns.entries,
      decide (e.key ≠ .text n) = !e.item.name.isSameName (.str n) := by
    intro e member
    rw [decide_not, Bool.not_inj_iff, Bool.eq_iff_iff, decide_eq_true_iff,
      Value.isSameName_iff_of_key (Value.key_str n), (named e member).2, Except.ok.injEq]
  calc (s.without n).columnList
      = (s.columns.entries.filter fun e => e.key ≠ .text n).map (·.item) := rfl
    _ = (s.columns.entries.filter fun e => !e.item.name.isSameName (.str n)).map (·.item) := by
      rw [List.filter_congr other]
    _ = s.columnList.filter fun c => !c.name.isSameName (.str n) := by
      rw [columnList, NameMap.items, List.filter_map]
      rfl

theorem untypedColumns_without (named : s.WellNamed) :
    (s.without n).untypedColumns =
      s.untypedColumns.filter fun c => !c.name.isSameName (.str n) := by
  rw [untypedColumns, untypedColumns, columnList_without named, List.filter_filter,
    List.filter_filter]
  exact List.filter_congr fun c _ => Bool.and_comm _ _

theorem lacks_str (m : String) : s.lacks (.str m) = !s.columns.contains (.text m) := rfl

theorem lacks_without {v : Value} (text : v.isText = true) :
    (s.without n).lacks v = (s.lacks v || v.isSameName (.str n)) := by
  obtain ⟨m, rfl⟩ := Value.isText_iff.mp text
  rw [lacks_str, lacks_str, without, NameMap.contains_erase]
  by_cases same : m = n
  · have called : (Value.str m).isSameName (.str n) = true := by
      rw [Value.isSameName_str_iff, same]
    rw [called]
    simp [same]
  · have other : (Value.str m).isSameName (.str n) = false := by
      rw [← Bool.not_eq_true, Value.isSameName_str_iff, Value.str.injEq]
      exact same
    simp [other, same]

theorem lacks_declared_without {v : Value} (text : v.isText = true)
    (known : s.hasColumn (.str n) = .ok true) (c : Column) :
    ((s.without n).declared n c).lacks v = s.lacks v := by
  rw [hasColumn_str, Except.ok.injEq] at known
  obtain ⟨m, rfl⟩ := Value.isText_iff.mp text
  rw [lacks_str, lacks_str, declared, without, NameMap.contains_insert, NameMap.contains_erase]
  by_cases same : m = n
  · simp [same, known]
  · simp [same]

theorem columnList_declared_without (s : Schema) (n : String) (c : Column) :
    ((s.without n).declared n c).columnList = (s.without n).columnList ++ [c] := by
  have gone : (s.without n).columns.contains (.text n) = false := by
    rw [without, NameMap.contains_erase]
    simp
  exact NameMap.items_insert gone (.str n) c

theorem untypedColumns_declared_without {c : Column} (typed : c.normalizedType ≠ "") :
    ((s.without n).declared n c).untypedColumns = (s.without n).untypedColumns := by
  rw [untypedColumns, columnList_declared_without, List.filter_append, List.filter_singleton]
  simp [typed, untypedColumns]

end Columns

/-- Of the issues about the items whose column is not there, which are of one kind, one is added
for each item on the column `n`, at its turn among the items. -/
structure AddsIssues {α : Type} (items : List α) (column : α → Value)
    (issue : α → Except Fault Issue) (kind : IssueKind) (lacking : Value → Bool) (n : String)
    (earlier later : List Issue) : Prop where
  kinds : ∀ i ∈ later, i.kind = kind
  listed : (items.filter fun item =>
      lacking (column item) || (column item).isSameName (.str n)).mapM issue = .ok later
  kept : (later.filter fun i => !i.column.isSameName (.str n)) = earlier
  added : (items.filter fun item => (column item).isSameName (.str n)).mapM issue =
    .ok (later.filter fun i => i.column.isSameName (.str n))

section Exclusive

variable {α : Type} {xs : List α} {p q : α → Bool}

/-- Of the items with one of two properties, those without the second have the first, if the two
exclude each other. -/
theorem filter_either_not (exclusive : ∀ x, q x = true → p x = false) :
    (xs.filter fun x => p x || q x).filter (fun x => !q x) = xs.filter p := by
  rw [List.filter_filter]
  refine List.filter_congr fun x _ => ?_
  cases second : q x with
  | true => simp [exclusive x second]
  | false => simp

theorem filter_either : (xs.filter fun x => p x || q x).filter q = xs.filter q := by
  rw [List.filter_filter]
  refine List.filter_congr fun x _ => ?_
  cases q x <;> simp

end Exclusive

theorem addsIssues {α : Type} {items : List α} {column : α → Value}
    {issue : α → Except Fault Issue} {kind : IssueKind} {lacking : Value → Bool}
    {earlier later : List Issue}
    (about : ∀ item i, issue item = .ok i → i.kind = kind ∧ i.column = column item)
    (there : lacking (.str n) = false)
    (before : (items.filter fun item => lacking (column item)).mapM issue = .ok earlier)
    (after : (items.filter fun item =>
      lacking (column item) || (column item).isSameName (.str n)).mapM issue = .ok later) :
    AddsIssues items column issue kind lacking n earlier later := by
  refine ⟨fun i member => ?kinds, after, ?kept, ?added⟩
  case kinds =>
    obtain ⟨item, -, found⟩ := (Result.mem_iff_of_mapM after).mp member
    exact (about item i found).1
  case kept =>
    have rest := Result.mapM_filter (q := fun i => !i.column.isSameName (.str n)) after
      fun item i found => by rw [(about item i found).2]
    -- What is on the column was not lacking, so the two reasons for an issue exclude each other.
    have exclusive (item : α) (on : (column item).isSameName (.str n) = true) :
        lacking (column item) = false := by
      rw [Value.isSameName_str_iff.mp on, there]
    rw [filter_either_not exclusive, before, Except.ok.injEq] at rest
    exact rest.symm
  case added =>
    have rest := Result.mapM_filter (q := fun i => i.column.isSameName (.str n)) after
      fun item i found => by rw [(about item i found).2]
    rwa [filter_either] at rest

/-- The second report is the first one without the missing type of the column `n`, and with an
issue for each key on it. -/
structure Loses (s : Schema) (n : String) (r r' : Report) : Prop where
  missingType : ∀ i ∈ r.untyped, i.kind = .columnMissingType
  untyped : r'.untyped = r.untyped.filter fun i => !i.column.isSameName (.str n)
  primaryKeys : r'.primaryKeys = r.primaryKeys
  ofIndexes : AddsIssues s.indexes Index.column Issue.undefinedIndexColumn .indexColumnMissing
    s.lacks n r.ofIndexes r'.ofIndexes
  ofForeignKeys : AddsIssues s.foreignKeys ForeignKey.column Issue.undefinedForeignKeyColumn
    .foreignKeyColumnMissing s.lacks n r.ofForeignKeys r'.ofForeignKeys
  unresolved : r'.unresolved = r.unresolved

theorem NamedByTexts.without (texts : s.NamedByTexts) (named : s.WellNamed) :
    (s.without n).NamedByTexts := by
  refine ⟨fun c member => ?_, texts.indexes, texts.foreignKeys⟩
  rw [columnList_without named] at member
  exact texts.columns c (List.mem_of_mem_filter member)

theorem NamedByTexts.declared_without (texts : s.NamedByTexts) (named : s.WellNamed) {c : Column}
    (called : c.name = .str n) : ((s.without n).declared n c).NamedByTexts := by
  refine ⟨fun other member => ?_, texts.indexes, texts.foreignKeys⟩
  rw [columnList_declared_without, List.mem_append, List.mem_singleton] at member
  rcases member with old | rfl
  · exact (texts.without named).columns other old
  · rw [called]
    rfl

theorem untyped_without (named : s.WellNamed) (yields : s.Yields r) :
    (s.without n).untypedColumns.mapM Issue.missingType =
      .ok (r.untyped.filter fun i => !i.column.isSameName (.str n)) := by
  rw [untypedColumns_without named]
  exact Result.mapM_filter yields.untyped fun c i found => by
    rw [(Issue.about_missingType found).2]

/-- The report after a column is taken out. -/
theorem Yields.without (yields : s.Yields r) (texts : s.NamedByTexts) (named : s.WellNamed)
    (known : s.hasColumn (.str n) = .ok true) :
    ∃ r', (s.without n).Yields r' ∧ s.Loses n r r' := by
  obtain ⟨r', after⟩ := (texts.without (n := n) named).exists_yields
  have there : s.lacks (.str n) = false := by rw [lacks, known]; rfl
  have indexes : (s.indexes.filter fun i => (s.without n).lacks i.column) =
      s.indexes.filter fun i => s.lacks i.column || i.column.isSameName (.str n) :=
    List.filter_congr fun i member => lacks_without (texts.indexes i member).2
  have foreignKeys : (s.foreignKeys.filter fun fk => (s.without n).lacks fk.column) =
      s.foreignKeys.filter fun fk => s.lacks fk.column || fk.column.isSameName (.str n) :=
    List.filter_congr fun fk member => lacks_without (texts.foreignKeys fk member).2
  refine ⟨r', after, ?missingType, ?untyped, ?primaryKeys, ?ofIndexes, ?ofForeignKeys, ?unresolved⟩
  case missingType =>
    intro i member
    obtain ⟨c, -, found⟩ := (Result.mem_iff_of_mapM yields.untyped).mp member
    exact (Issue.about_missingType found).1
  case untyped => exact Except.ok.inj (after.untyped.symm.trans (untyped_without named yields))
  case primaryKeys => exact after.primaryKeys.trans yields.primaryKeys.symm
  case ofIndexes =>
    exact addsIssues (fun _ _ => Issue.about_undefinedIndexColumn) there yields.ofIndexes
      (indexes ▸ after.ofIndexes)
  case ofForeignKeys =>
    exact addsIssues (fun _ _ => Issue.about_undefinedForeignKeyColumn) there
      yields.ofForeignKeys (foreignKeys ▸ after.ofForeignKeys)
  case unresolved => exact Except.ok.inj (after.unresolved.symm.trans yields.unresolved)

/-- The report after the column is declared again with a type: the keys on it are fine again. -/
theorem Yields.declared_without (yields : s.Yields r) (texts : s.NamedByTexts)
    (named : s.WellNamed) (known : s.hasColumn (.str n) = .ok true) {c : Column}
    (typed : c.normalizedType ≠ "") :
    ((s.without n).declared n c).Yields
      { r with untyped := r.untyped.filter fun i => !i.column.isSameName (.str n) } := by
  have indexes : (s.indexes.filter fun i => ((s.without n).declared n c).lacks i.column) =
      s.indexes.filter fun i => s.lacks i.column :=
    List.filter_congr fun i member => lacks_declared_without (texts.indexes i member).2 known c
  have foreignKeys :
      (s.foreignKeys.filter fun fk => ((s.without n).declared n c).lacks fk.column) =
        s.foreignKeys.filter fun fk => s.lacks fk.column :=
    List.filter_congr fun fk member =>
      lacks_declared_without (texts.foreignKeys fk member).2 known c
  constructor
  case untyped =>
    rw [untypedColumns_declared_without typed]
    exact untyped_without named yields
  case primaryKeys => exact yields.primaryKeys
  case ofIndexes => exact indexes ▸ yields.ofIndexes
  case ofForeignKeys => exact foreignKeys ▸ yields.ofForeignKeys
  case unresolved => exact yields.unresolved

end TableDdl.Schema
