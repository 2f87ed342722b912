import TableDdl.Loading.Table
import TableDdl.Proofs.Schema.Named

/-!
# What a part adds

Every part of a table description adds one thing to the schema and leaves the rest as it is: a
column under its own name, an index entry at the end, or a foreign key at the end. What the parts
keep, the whole description keeps.
-/

namespace TableDdl.Loading

variable {s t : Schema} {v : Value}

theorem columnNamed_name {entries : List (Value × Value)} {name : Value} {c : Column}
    (read : columnNamed entries name = .ok c) : c.name = name := by
  simp only [columnNamed, Result.bind_eq_ok_iff, Result.pure_eq_ok, Except.ok.injEq] at read
  obtain ⟨-, -, -, -, -, -, -, -, rfl⟩ := read
  rfl

/-- A description of a column that is accepted gives a name, and the column that it describes is
put under that name. -/
theorem addColumn_eq_ok (added : addColumn s v = .ok t) :
    ∃ entries name key c, description .column v = .ok entries ∧
      (Value.field entries "name").given? = some name ∧ name.key = .ok key ∧
        columnNamed entries name = .ok c ∧
          t = { s with columns := s.columns.insert key name c } := by
  obtain ⟨entries, described, added⟩ := Result.bind_eq_ok_iff.mp added
  cases given : (Value.field entries "name").given? with
  | none => simp [given, Result.bind_eq_ok_iff] at added
  | some name =>
    rw [given] at added
    obtain ⟨key, called, added⟩ := Result.bind_eq_ok_iff.mp added
    obtain ⟨c, read, added⟩ := Result.bind_eq_ok_iff.mp added
    cases added
    exact ⟨entries, name, key, c, described, given, Result.ofFault_eq_ok_iff.mp called, read, rfl⟩

/-- A description of a column puts a column under its own name. -/
theorem addColumn_eq_insert (added : addColumn s v = .ok t) :
    ∃ key c, c.name.key = .ok key ∧ t = { s with columns := s.columns.insert key c.name c } := by
  obtain ⟨entries, name, key, c, -, -, called, read, rfl⟩ := addColumn_eq_ok added
  obtain rfl := columnNamed_name read
  exact ⟨key, c, called, rfl⟩

/-- A description of an index entry puts an entry at the end. -/
theorem addIndex_eq_append (added : addIndex s v = .ok t) :
    ∃ i, t = { s with indexes := s.indexes ++ [i] } := by
  obtain ⟨entries, -, added⟩ := Result.bind_eq_ok_iff.mp added
  cases given : (Value.field entries "column").given? with
  | none => simp [given, Result.bind_eq_ok_iff] at added
  | some column =>
    rw [given] at added
    obtain ⟨text, -, added⟩ := Result.bind_eq_ok_iff.mp added
    cases named : kindOfWord? (Text.lower text) with
    | none => simp [named, Result.bind_eq_ok_iff] at added
    | some kind =>
      simp only [named] at added
      obtain ⟨entry, -, added⟩ := Result.bind_eq_ok_iff.mp added
      cases added
      exact ⟨{ entry with kind }, rfl⟩

/-- A description of a foreign key puts a foreign key at the end. -/
theorem addForeignKey_eq_append (added : addForeignKey s v = .ok t) :
    ∃ fk, t = { s with foreignKeys := s.foreignKeys ++ [fk] } := by
  obtain ⟨entries, -, added⟩ := Result.bind_eq_ok_iff.mp added
  cases given : (Value.field entries "column").given? with
  | none => simp [given, Result.bind_eq_ok_iff] at added
  | some column =>
    rw [given] at added
    obtain ⟨entry, -, added⟩ := Result.bind_eq_ok_iff.mp added
    cases added
    exact ⟨_, rfl⟩

/-- What adding one part keeps, adding all of them keeps. -/
theorem addParts_keeps {add : Schema → Value → Attempt LoadError Schema} {P : Schema → Prop}
    (step : ∀ s v t, P s → add s v = .ok t → P t) (start : P s)
    (added : addParts add s v = .ok t) : P t := by
  obtain ⟨parts, -, run⟩ := Result.bind_eq_ok_iff.mp added
  exact Result.foldlM_keeps step start run

/-- In a schema that was read, every column stands under its own name. -/
theorem table_wellNamed (loaded : table v = .ok s) : s.WellNamed := by
  obtain ⟨entries, -, loaded⟩ := Result.bind_eq_ok_iff.mp loaded
  cases given : (Value.field entries "table").given? with
  | none => simp [given] at loaded
  | some name =>
    rw [given] at loaded
    obtain ⟨ofColumns, columns, loaded⟩ := Result.bind_eq_ok_iff.mp loaded
    obtain ⟨ofIndexes, indexes, foreignKeys⟩ := Result.bind_eq_ok_iff.mp loaded
    have start (front : Value) : Schema.WellNamed { baseName := name, tablePrefix := front } :=
      NameMap.WellNamed.empty
    have named : ofColumns.WellNamed := by
      refine addParts_keeps (P := Schema.WellNamed) ?_ (start _) columns
      intro s v t named added
      obtain ⟨key, c, called, rfl⟩ := addColumn_eq_insert added
      exact named.insert called called
    have named : ofIndexes.WellNamed := by
      refine addParts_keeps (P := Schema.WellNamed) ?_ named indexes
      intro s v t named added
      obtain ⟨i, rfl⟩ := addIndex_eq_append added
      exact named
    refine addParts_keeps (P := Schema.WellNamed) ?_ named foreignKeys
    intro s v t named added
    obtain ⟨fk, rfl⟩ := addForeignKey_eq_append added
    exact named

end TableDdl.Loading
