import TableDdl.Proofs.Schema.Textual

/-!
# What the checks report

The issues of a schema check by check. The checks of columns look at the columns only, those of
keys at the keys and at which columns are there. So when columns come and go, the report changes
in what is about them and stays as it is in all else.
-/

namespace TableDdl

namespace Issue

theorem about_missingType {c : Column} {issue : Issue} (found : missingType c = .ok issue) :
    issue.kind = .columnMissingType ∧ issue.column = c.name := by
  obtain ⟨name, -, same⟩ := Result.bind_eq_ok_iff.mp found
  cases same
  exact ⟨rfl, rfl⟩

theorem about_undefinedIndexColumn {i : Index} {issue : Issue}
    (found : undefinedIndexColumn i = .ok issue) :
    issue.kind = .indexColumnMissing ∧ issue.column = i.column := by
  obtain ⟨keyName, -, found⟩ := Result.bind_eq_ok_iff.mp found
  obtain ⟨column, -, same⟩ := Result.bind_eq_ok_iff.mp found
  cases same
  exact ⟨rfl, rfl⟩

theorem about_undefinedForeignKeyColumn {fk : ForeignKey} {issue : Issue}
    (found : undefinedForeignKeyColumn fk = .ok issue) :
    issue.kind = .foreignKeyColumnMissing ∧ issue.column = fk.column := by
  obtain ⟨keyName, -, found⟩ := Result.bind_eq_ok_iff.mp found
  obtain ⟨column, -, same⟩ := Result.bind_eq_ok_iff.mp found
  cases same
  exact ⟨rfl, rfl⟩

end Issue

/-- What the checks of a schema find, check by check. -/
structure Report where
  untyped : List Issue
  primaryKeys : List Issue
  ofIndexes : List Issue
  ofForeignKeys : List Issue
  unresolved : List Issue

/-- All issues of a report, in order. -/
def Report.issues (r : Report) : List Issue :=
  r.untyped ++ r.primaryKeys ++ r.ofIndexes ++ r.ofForeignKeys ++ r.unresolved

namespace Schema

variable {s t : Schema} {r : Report}

/-- Every name of a column or a key is a text. -/
structure NamedByTexts (s : Schema) : Prop where
  columns : ∀ c ∈ s.columnList, c.name.isText = true
  indexes : ∀ i ∈ s.indexes, i.keyName.isText = true ∧ i.column.isText = true
  foreignKeys : ∀ fk ∈ s.foreignKeys, fk.keyName.isText = true ∧ fk.column.isText = true

/-- Whether a name is none of a column. -/
def lacks (s : Schema) (name : Value) : Bool :=
  match s.hasColumn name with
  | .ok known => !known
  | .error _ => false

/-- The report of a schema: the issues of every check, in the order of what they are about. -/
structure Yields (s : Schema) (r : Report) : Prop where
  untyped : s.untypedColumns.mapM Issue.missingType = .ok r.untyped
  primaryKeys : r.primaryKeys = s.primaryKeyIssues
  ofIndexes : (s.indexes.filter fun i => s.lacks i.column).mapM Issue.undefinedIndexColumn =
    .ok r.ofIndexes
  ofForeignKeys :
    (s.foreignKeys.filter fun fk => s.lacks fk.column).mapM Issue.undefinedForeignKeyColumn =
      .ok r.ofForeignKeys
  unresolved : s.unresolvedForeignKeys.mapM Issue.missingReference = .ok r.unresolved

theorem danglingIssues_eq_mapM {α : Type} {column : α → Value} {issue : α → Except Fault Issue}
    {items : List α} (texts : ∀ item ∈ items, (column item).isText = true) :
    s.danglingIssues column issue items =
      (items.filter fun item => s.lacks (column item)).mapM issue := by
  induction items with
  | nil => rfl
  | cons item rest ih =>
    obtain ⟨text, others⟩ := List.forall_mem_cons.mp texts
    obtain ⟨known, asked⟩ := IsTextual.exists_hasColumn (s := s) text
    have lacking : s.lacks (column item) = !known := by rw [lacks, asked]
    rw [danglingIssues, ih others, asked, List.filter_cons, lacking, Result.ok_bind]
    cases known with
    | true =>
      rw [Bool.not_true, if_neg Bool.false_ne_true]
      cases (rest.filter fun item => s.lacks (column item)).mapM issue <;> rfl
    | false =>
      rw [Bool.not_false, if_pos rfl, List.mapM_cons]
      cases issue item with
      | error f => rfl
      | ok first => cases (rest.filter fun item => s.lacks (column item)).mapM issue <;> rfl

theorem IsTextual.namedByTexts (textual : s.IsTextual) : s.NamedByTexts where
  columns := textual.columns
  indexes i member := ⟨(textual.indexes i member).keyName, (textual.indexes i member).column⟩
  foreignKeys fk member :=
    ⟨(textual.foreignKeys fk member).keyName, (textual.foreignKeys fk member).column⟩

namespace NamedByTexts

theorem checkable (texts : s.NamedByTexts) : s.Checkable where
  untyped c member _ := Value.writable_of_isText (texts.columns c member)
  indexed i member := IsTextual.checks (texts.indexes i member).1 (texts.indexes i member).2
  tied fk member :=
    IsTextual.checks (texts.foreignKeys fk member).1 (texts.foreignKeys fk member).2
  unresolved fk member _ := Value.writable_of_isText (texts.foreignKeys fk member).1

/-- A schema with texts for names has a report. -/
theorem exists_yields (texts : s.NamedByTexts) : ∃ r, s.Yields r := by
  obtain ⟨found, ended⟩ := exists_issues_iff.mpr texts.checkable
  obtain ⟨untyped, first, ofIndexes, second, ofForeignKeys, third, unresolved, last, -⟩ :=
    issues_eq_ok_iff.mp ended
  rw [danglingIssues_eq_mapM fun i member => (texts.indexes i member).2] at second
  rw [danglingIssues_eq_mapM fun fk member => (texts.foreignKeys fk member).2] at third
  exact ⟨⟨untyped, s.primaryKeyIssues, ofIndexes, ofForeignKeys, unresolved⟩,
    first, rfl, second, third, last⟩

/-- The issues of a schema with texts for names are those of its report. -/
theorem issues_eq (texts : s.NamedByTexts) (yields : s.Yields r) : s.issues = .ok r.issues := by
  rw [issues_eq_ok_iff, danglingIssues_eq_mapM fun i member => (texts.indexes i member).2,
    danglingIssues_eq_mapM fun fk member => (texts.foreignKeys fk member).2]
  refine ⟨_, yields.untyped, _, yields.ofIndexes, _, yields.ofForeignKeys, _, yields.unresolved, ?_⟩
  rw [← yields.primaryKeys]
  rfl

end NamedByTexts

end Schema

end TableDdl
