import TableDdl.Proofs.Engine.Session
import TableDdl.Proofs.Loading.Described

/-!
# Which schemas get a statement

The engine of this library makes a statement only for a schema without issues, and refuses a schema
only for the issues that it has. All other ways in which it may fail are faults.
-/

namespace TableDdl.Engine

variable {operation : Operation} {trailer : String} {s : Schema} {e : EngineError}

theorem check_standard (s : Schema) :
    standard.check s =
      (Attempt.ofFault s.issues >>= fun issues =>
        if issues.isEmpty then .ok ()
        else Attempt.ofFault s.tableName >>= fun tableName =>
          refuse (.invalid tableName issues)) :=
  rfl

theorem check_standard_eq_ok_iff : standard.check s = .ok () ↔ s.issues = .ok [] := by
  rw [check_standard]
  cases s.issues with
  | error f => simp [Attempt.ofFault]
  | ok issues => cases issues <;> simp [Result.bind_eq_ok_iff]

theorem check_standard_eq_refused_iff :
    standard.check s = .error (.refused e) ↔
      ∃ tableName issue issues, s.issues = .ok (issue :: issues) ∧ s.tableName = .ok tableName ∧
        e = .invalid tableName (issue :: issues) := by
  rw [check_standard]
  cases s.issues with
  | error f => simp [Attempt.ofFault]
  | ok issues =>
    cases issues with
    | nil => simp
    | cons issue issues =>
      cases s.tableName with
      | error f => simp [Attempt.ofFault]
      | ok tableName =>
        simp only [Result.ofFault_ok, Result.ok_bind, List.isEmpty_cons, refuse]
        constructor
        · intro same
          cases same
          exact ⟨tableName, issue, issues, rfl, rfl, rfl⟩
        · rintro ⟨_, _, _, listed, named, rfl⟩
          cases listed
          cases named
          rfl

/-- What follows the check can be ended by faults only. -/
theorem statement_standard_eq_refused (refused :
    standard.statement operation trailer s = .error (.refused e)) :
    standard.check s = .error (.refused e) := by
  cases operation with
  | create =>
    rcases Result.bind_eq_error_iff.mp refused with checked | ⟨-, -, made⟩
    · exact checked
    · simp [Result.bind_eq_error_iff] at made
  | drop =>
    rcases Result.bind_eq_error_iff.mp refused with checked | ⟨-, -, made⟩
    · exact checked
    · simp [Result.bind_eq_error_iff] at made

/-- A schema that gets a statement has no issues. -/
theorem issues_of_query_ok {sql : String} (made : standard.query operation trailer s = .ok sql) :
    s.issues = .ok [] := by
  obtain ⟨statement, made, -⟩ := Result.map_eq_ok_iff.mp made
  rw [← check_standard_eq_ok_iff]
  cases operation with
  | create =>
    obtain ⟨⟨⟩, checked, -⟩ := Result.bind_eq_ok_iff.mp made
    exact checked
  | drop =>
    obtain ⟨⟨⟩, checked, -⟩ := Result.bind_eq_ok_iff.mp made
    exact checked

/-- The statement that creates a table has the name of the table in it. -/
theorem name_of_query_create {sql : String} (asked : standard.query .create trailer s = .ok sql) :
    ∃ tableName rest, s.tableName = .ok tableName ∧
      sql = "CREATE TABLE " ++ tableName ++ rest := by
  obtain ⟨statement, made, rfl⟩ := Result.map_eq_ok_iff.mp asked
  obtain ⟨-, -, made⟩ := Result.bind_eq_ok_iff.mp made
  obtain ⟨clauses, -, made⟩ := Result.bind_eq_ok_iff.mp made
  obtain ⟨tableName, named, made⟩ := Result.bind_eq_ok_iff.mp made
  cases made
  by_cases bare : trailer = ""
  · refine ⟨tableName, " (\n" ++ ",\n".intercalate clauses ++ "\n)",
      Result.ofFault_eq_ok_iff.mp named, ?_⟩
    simp [bare, String.append_assoc]
  · refine ⟨tableName, " (\n" ++ ",\n".intercalate clauses ++ "\n)" ++ " " ++ trailer,
      Result.ofFault_eq_ok_iff.mp named, ?_⟩
    simp [bare, String.append_assoc]

/-- A schema gets the statement that drops its table exactly if it has no issues and its name can be
written. -/
theorem query_drop_eq_ok_iff {sql : String} :
    standard.query .drop trailer s = .ok sql ↔
      s.issues = .ok [] ∧ ∃ tableName, s.tableName = .ok tableName ∧
        sql = "DROP TABLE IF EXISTS " ++ tableName ++ ";" := by
  constructor
  · intro asked
    refine ⟨issues_of_query_ok asked, ?_⟩
    obtain ⟨statement, made, rfl⟩ := Result.map_eq_ok_iff.mp asked
    obtain ⟨-, -, made⟩ := Result.bind_eq_ok_iff.mp made
    obtain ⟨tableName, named, made⟩ := Result.bind_eq_ok_iff.mp made
    cases made
    exact ⟨tableName, Result.ofFault_eq_ok_iff.mp named, rfl⟩
  · rintro ⟨clear, tableName, named, rfl⟩
    have checked := check_standard_eq_ok_iff.mpr clear
    rw [query, statement, dropStatement, checked, named]
    rfl

/-- A schema that can be checked and whose name can be written is refused the statement that drops
its table if it does not get it. -/
theorem refused_of_query_drop_error {failure : Failure EngineError} {issues : List Issue}
    (found : s.issues = .ok issues) (named : s.IsNamed)
    (failed : standard.query .drop trailer s = .error failure) : ∃ e, failure = .refused e := by
  obtain ⟨tableName, written⟩ := named
  cases issues with
  | nil =>
    have made : standard.query .drop trailer s = .ok _ :=
      query_drop_eq_ok_iff.mpr ⟨found, tableName, written, rfl⟩
    cases made.symm.trans failed
  | cons issue issues =>
    have checked := check_standard_eq_refused_iff.mpr
      ⟨tableName, issue, issues, found, written, rfl⟩
    rw [query, statement, dropStatement, checked] at failed
    cases failed
    exact ⟨_, rfl⟩

/-- A schema is refused a statement for all the issues that it has. -/
theorem issues_of_query_refused
    (refused : standard.query operation trailer s = .error (.refused e)) :
    ∃ tableName issue issues, s.issues = .ok (issue :: issues) ∧ s.tableName = .ok tableName ∧
      e = .invalid tableName (issue :: issues) := by
  rw [← check_standard_eq_refused_iff]
  cases made : standard.statement operation trailer s with
  | ok statement =>
    rw [query, made] at refused
    cases refused
  | error failure =>
    rw [query, made] at refused
    cases refused
    exact statement_standard_eq_refused made

end TableDdl.Engine
