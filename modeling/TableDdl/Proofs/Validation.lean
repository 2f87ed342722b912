import TableDdl.Proofs.Names
import TableDdl.Validation

/-!
# When there are no issues

The checks of a schema, each read as what it asks for. A schema is consistent if every check is
passed, and that is when the list of issues comes out empty. The checks can also fail to come to
an end: the name that an entry gives for its column is looked up, and what an issue concerns is
written into its message.
-/

namespace TableDdl

namespace Issue

theorem exists_missingType_iff {c : Column} :
    (∃ issue, missingType c = .ok issue) ↔ c.name.Writable := by
  rw [missingType, Value.Writable]
  cases c.name.text <;> simp

theorem exists_missingReference_iff {fk : ForeignKey} :
    (∃ issue, missingReference fk = .ok issue) ↔ fk.keyName.Writable := by
  rw [missingReference, Value.Writable]
  cases fk.keyName.text <;> simp

theorem exists_undefinedIndexColumn_iff {i : Index} :
    (∃ issue, undefinedIndexColumn i = .ok issue) ↔ i.keyName.Writable ∧ i.column.Writable := by
  rw [undefinedIndexColumn, Value.Writable, Value.Writable]
  cases i.keyName.text <;> cases i.column.text <;> simp

theorem exists_undefinedForeignKeyColumn_iff {fk : ForeignKey} :
    (∃ issue, undefinedForeignKeyColumn fk = .ok issue) ↔
      fk.keyName.Writable ∧ fk.column.Writable := by
  rw [undefinedForeignKeyColumn, Value.Writable, Value.Writable]
  cases fk.keyName.text <;> cases fk.column.text <;> simp

end Issue

namespace Schema

variable {s : Schema}

/-- A schema that passes every check. -/
structure Consistent (s : Schema) : Prop where
  typed : ∀ c ∈ s.columnList, c.normalizedType ≠ ""
  onePrimary : s.primaryEntries.length ≤ 1
  indexed : ∀ i ∈ s.indexes, s.hasColumn i.column = .ok true
  tied : ∀ fk ∈ s.foreignKeys, s.hasColumn fk.column = .ok true
  resolved : ∀ fk ∈ s.foreignKeys, fk.isResolved = true

/-- The column that something named gives is there, or it is not and can be reported so. -/
def Checks (s : Schema) (keyName column : Value) : Prop :=
  s.hasColumn column = .ok true ∨
    s.hasColumn column = .ok false ∧ keyName.Writable ∧ column.Writable

/-- A schema on which every check comes to an end. -/
structure Checkable (s : Schema) : Prop where
  untyped : ∀ c ∈ s.columnList, c.normalizedType = "" → c.name.Writable
  indexed : ∀ i ∈ s.indexes, s.Checks i.keyName i.column
  tied : ∀ fk ∈ s.foreignKeys, s.Checks fk.keyName fk.column
  unresolved : ∀ fk ∈ s.foreignKeys, fk.isResolved = false → fk.keyName.Writable

section Dangling

variable {α : Type} {column : α → Value} {issue : α → Except Fault Issue}

theorem danglingIssues_cons {item : α} {rest : List α} {found : List Issue} :
    s.danglingIssues column issue (item :: rest) = .ok found ↔
      (s.hasColumn (column item) = .ok true ∧ s.danglingIssues column issue rest = .ok found) ∨
        (s.hasColumn (column item) = .ok false ∧
          ∃ first others, issue item = .ok first ∧
            s.danglingIssues column issue rest = .ok others ∧ found = first :: others) := by
  rw [danglingIssues]
  cases s.hasColumn (column item) with
  | error f => simp
  | ok known =>
    cases known with
    | true => cases s.danglingIssues column issue rest <;> simp
    | false =>
      cases issue item with
      | error f => simp
      | ok first =>
        cases s.danglingIssues column issue rest <;> simp [List.singleton, eq_comm]

/-- What stands in front of the name of the table makes nothing dangle. -/
theorem danglingIssues_tablePrefix (own : Value) (items : List α) :
    danglingIssues { s with tablePrefix := own } column issue items =
      s.danglingIssues column issue items := by
  induction items with
  | nil => rfl
  | cons item rest ih =>
    rw [danglingIssues, danglingIssues, ih]
    rfl

/-- Nothing dangles exactly if every column is there. -/
theorem danglingIssues_eq_nil_iff {items : List α} :
    s.danglingIssues column issue items = .ok [] ↔
      ∀ item ∈ items, s.hasColumn (column item) = .ok true := by
  induction items with
  | nil => simp [danglingIssues]
  | cons item rest ih => simp [danglingIssues_cons, ih]

theorem exists_danglingIssues_iff {items : List α} :
    (∃ found, s.danglingIssues column issue items = .ok found) ↔
      ∀ item ∈ items, s.hasColumn (column item) = .ok true ∨
        s.hasColumn (column item) = .ok false ∧ ∃ first, issue item = .ok first := by
  induction items with
  | nil => simp [danglingIssues]
  | cons item rest ih =>
    rw [List.forall_mem_cons, ← ih]
    simp only [danglingIssues_cons]
    constructor
    · rintro ⟨found, ⟨known, others⟩ | ⟨absent, first, others, reported, ok, -⟩⟩
      · exact ⟨.inl known, found, others⟩
      · exact ⟨.inr ⟨absent, first, reported⟩, others, ok⟩
    · rintro ⟨known | ⟨absent, first, reported⟩, others, ok⟩
      · exact ⟨others, .inl ⟨known, ok⟩⟩
      · exact ⟨first :: others, .inr ⟨absent, first, others, reported, ok, rfl⟩⟩

end Dangling

theorem primaryKeyIssues_eq_nil_iff :
    s.primaryKeyIssues = [] ↔ s.primaryEntries.length ≤ 1 := by
  rw [primaryKeyIssues]
  split <;> simp_all

/-- No check looks at what is put in front of the name. -/
theorem issues_tablePrefix (own : Value) : issues { s with tablePrefix := own } = s.issues := by
  simp only [issues, danglingIssues_tablePrefix]
  rfl

theorem issues_eq_ok_iff {found : List Issue} :
    s.issues = .ok found ↔
      ∃ untyped, s.untypedColumns.mapM Issue.missingType = .ok untyped ∧
      ∃ ofIndexes,
        s.danglingIssues Index.column Issue.undefinedIndexColumn s.indexes = .ok ofIndexes ∧
      ∃ ofForeignKeys,
        s.danglingIssues ForeignKey.column Issue.undefinedForeignKeyColumn s.foreignKeys =
          .ok ofForeignKeys ∧
      ∃ unresolved, s.unresolvedForeignKeys.mapM Issue.missingReference = .ok unresolved ∧
        untyped ++ s.primaryKeyIssues ++ ofIndexes ++ ofForeignKeys ++ unresolved = found := by
  simp only [issues, Result.bind_eq_ok_iff, Result.pure_eq_ok, Except.ok.injEq]

/-- A schema has no issues exactly if it is consistent. -/
theorem issues_eq_ok_nil_iff : s.issues = .ok [] ↔ s.Consistent := by
  rw [issues_eq_ok_iff]
  constructor
  · rintro ⟨untyped, h1, ofIndexes, h2, ofForeignKeys, h3, unresolved, h4, none⟩
    simp only [List.append_eq_nil_iff] at none
    obtain ⟨⟨⟨⟨rfl, primary⟩, rfl⟩, rfl⟩, rfl⟩ := none
    rw [Result.mapM_eq_ok_nil_iff, untypedColumns, List.filter_eq_nil_iff] at h1
    rw [Result.mapM_eq_ok_nil_iff, unresolvedForeignKeys, List.filter_eq_nil_iff] at h4
    refine ⟨fun c member => ?_, primaryKeyIssues_eq_nil_iff.mp primary,
      danglingIssues_eq_nil_iff.mp h2, danglingIssues_eq_nil_iff.mp h3, fun fk member => ?_⟩
    · simpa using h1 c member
    · simpa using h4 fk member
  · intro consistent
    refine ⟨[], Result.mapM_eq_ok_nil_iff.mpr ?_, [],
      danglingIssues_eq_nil_iff.mpr consistent.indexed, [],
      danglingIssues_eq_nil_iff.mpr consistent.tied, [], Result.mapM_eq_ok_nil_iff.mpr ?_, ?_⟩
    · rw [untypedColumns, List.filter_eq_nil_iff]
      intro c member
      simpa using consistent.typed c member
    · rw [unresolvedForeignKeys, List.filter_eq_nil_iff]
      intro fk member
      simpa using consistent.resolved fk member
    · simp [primaryKeyIssues_eq_nil_iff.mpr consistent.onePrimary]

/-- The issues of a schema can be listed exactly if it is checkable. -/
theorem exists_issues_iff : (∃ found, s.issues = .ok found) ↔ s.Checkable := by
  have listed : (∃ found, s.issues = .ok found) ↔
      (∃ untyped, s.untypedColumns.mapM Issue.missingType = .ok untyped) ∧
      (∃ found, s.danglingIssues Index.column Issue.undefinedIndexColumn s.indexes = .ok found) ∧
      (∃ found, s.danglingIssues ForeignKey.column Issue.undefinedForeignKeyColumn
        s.foreignKeys = .ok found) ∧
      ∃ unresolved, s.unresolvedForeignKeys.mapM Issue.missingReference = .ok unresolved := by
    simp only [issues_eq_ok_iff]
    constructor
    · rintro ⟨-, untyped, h1, ofIndexes, h2, ofForeignKeys, h3, unresolved, h4, -⟩
      exact ⟨⟨untyped, h1⟩, ⟨ofIndexes, h2⟩, ⟨ofForeignKeys, h3⟩, unresolved, h4⟩
    · rintro ⟨⟨untyped, h1⟩, ⟨ofIndexes, h2⟩, ⟨ofForeignKeys, h3⟩, unresolved, h4⟩
      exact ⟨_, untyped, h1, ofIndexes, h2, ofForeignKeys, h3, unresolved, h4, rfl⟩
  rw [listed, Result.exists_mapM_eq_ok_iff, Result.exists_mapM_eq_ok_iff,
    exists_danglingIssues_iff, exists_danglingIssues_iff]
  simp only [Issue.exists_missingType_iff, Issue.exists_missingReference_iff,
    Issue.exists_undefinedIndexColumn_iff, Issue.exists_undefinedForeignKeyColumn_iff,
    untypedColumns, unresolvedForeignKeys, List.mem_filter]
  constructor
  · rintro ⟨untyped, indexed, tied, unresolved⟩
    exact ⟨fun c member bare => untyped c ⟨member, by simpa using bare⟩, indexed, tied,
      fun fk member open_ => unresolved fk ⟨member, by simpa using open_⟩⟩
  · intro checkable
    exact ⟨fun c member => checkable.untyped c member.1 (by simpa using member.2),
      checkable.indexed, checkable.tied,
      fun fk member => checkable.unresolved fk member.1 (by simpa using member.2)⟩

end Schema

end TableDdl
