import TableDdl.Proofs.Engine.Session

/-!
# How requests end

A request to an engine ends in one of three ways: the schema has issues, the store fails to execute
the statement, or the request is done. The issues and the answer of the store decide which one it
is. What is seen of the request goes with the way it ends: the statements that the store received,
the log, and what reaches whoever made the request.
-/

namespace TableDdl

/-- What the answer of a store says about a failure: a text, and the exception if one was raised. Of
a result the texts count that are not empty. -/
def StoreResult.failure? : Except Raised StoreResult → Option (String × Option Raised)
  | .error raised => some (raised.text, some raised)
  | .ok result =>
    if result.diagnosticOutput = "" ∧ result.errorMessage = "" then none
    else
      some ("\n".intercalate ([result.diagnosticOutput, result.errorMessage].filter (· ≠ "")), none)

namespace Engine

open StoreResult

section Settle

variable {operation : Operation} {tableName : String} {answer : Except Raised StoreResult}

theorem settle_of_failure {detail : String} {cause : Option Raised}
    (failed : failure? answer = some (detail, cause)) :
    settle operation tableName answer =
      ([⟨.error, (if cause.isSome then "Store raised while executing on " else
          "Store reported failure on ") ++ tableName ++ ": " ++ detail⟩],
        refuse (.store operation tableName detail cause)) := by
  cases answer with
  | error raised =>
    cases failed
    rfl
  | ok result =>
    by_cases fine : result.diagnosticOutput = "" ∧ result.errorMessage = ""
    · simp [failure?, fine] at failed
    · have reported : result.failed = true := by
        rw [failed_iff]
        tauto
      simp only [failure?, if_neg fine, Option.some.injEq, Prod.mk.injEq] at failed
      obtain ⟨rfl, rfl⟩ := failed
      simp only [settle, reported, if_true]
      rfl

theorem settle_of_success (succeeded : failure? answer = none) :
    settle operation tableName answer = ([], .ok ()) := by
  cases answer with
  | error raised => cases succeeded
  | ok result =>
    have fine : result.diagnosticOutput = "" ∧ result.errorMessage = "" := by
      by_contra reported
      simp [failure?, reported] at succeeded
    have silent : result.failed = false := by
      rw [← Bool.not_eq_true, failed_iff]
      tauto
    simp [settle, silent]

end Settle

section Query

variable {e : Engine} {operation : Operation} {trailer tableName : String} {s : Schema}
  {issues : List Issue}

theorem check_of_valid (validated : e.validate s = .ok []) : e.check s = .ok () := by
  rw [check, validated]
  rfl

theorem check_of_issues (validated : e.validate s = .ok issues) (found : issues ≠ [])
    (named : s.tableName = .ok tableName) : e.check s = refuse (.invalid tableName issues) := by
  cases issues with
  | nil => exact absurd rfl found
  | cons issue rest =>
    rw [check, validated, named]
    rfl

/-- A schema with issues gets no statement. -/
theorem query_of_issues (validated : e.validate s = .ok issues) (found : issues ≠ [])
    (named : s.tableName = .ok tableName) :
    e.query operation trailer s = refuse (.invalid tableName issues) := by
  have checked := check_of_issues validated found named
  cases operation with
  | create =>
    rw [query, statement, createStatement, checked]
    rfl
  | drop =>
    rw [query, statement, dropStatement, checked]
    rfl

/-- A valid schema gets its statement if its clauses and its name can be written. -/
theorem exists_query_of_valid {clauses : List String} (validated : e.validate s = .ok [])
    (translated : e.clauses s = .ok clauses) (named : s.tableName = .ok tableName) :
    ∃ sql, e.query operation trailer s = .ok sql := by
  have checked := check_of_valid validated
  cases operation with
  | create =>
    rw [query, statement, createStatement, checked, translated, named]
    exact ⟨_, rfl⟩
  | drop =>
    rw [query, statement, dropStatement, checked, named]
    exact ⟨_, rfl⟩

/-- A valid schema is not refused its statement. If it does not get it, that is for a fault. -/
theorem query_ne_refused_of_valid (validated : e.validate s = .ok []) (error : EngineError) :
    e.query operation trailer s ≠ .error (.refused error) := by
  have checked := check_of_valid validated
  cases operation with
  | create =>
    rw [query, statement, createStatement, checked, Result.ok_bind]
    cases e.clauses s with
    | error f => rintro ⟨⟩
    | ok clauses => cases s.tableName <;> rintro ⟨⟩
  | drop =>
    rw [query, statement, dropStatement, checked, Result.ok_bind]
    cases s.tableName <;> rintro ⟨⟩

end Query

/-- The ways in which a request may end. -/
inductive Ending where
  | invalid
  | failed
  | done

/-- What is seen of a request: the statements that the store received, the log, and what reaches
whoever made the request. -/
structure Seen where
  received : List String
  log : List LogLine
  reply : Attempt Refusal Unit

section Ends

variable {σ : Type} [Store σ]

/-- What is seen of an operation on the table of a schema. -/
def seen (e : Engine) (operation : Operation) (store : σ) (s : Schema) : Seen :=
  let run := e.run operation ({ store } : Witnessed σ) s
  ⟨run.store.received, run.log, Refusal.about s run.outcome⟩

/-- When a request about a schema with the given issues ends in a way, and what is seen of it
then. -/
inductive Ends (e : Engine) (operation : Operation) (store : σ) (s : Schema) (tableName : String)
    (issues : List Issue) : Ending → Seen → Prop where
  | invalid {error : EngineError} (found : issues ≠ []) (same : error = .invalid tableName issues)
      (code : error.code = 201)
      (message : error.message =
        tableName ++ " failed with " ++ toString issues.length ++ " errors:\n  - " ++
          "\n  - ".intercalate (issues.map (·.message))) :
    Ends e operation store s tableName issues .invalid
      { received := []
        log := [⟨.warning, "Schema " ++ tableName ++ " failed validation with " ++
          toString issues.length ++ " errors"⟩]
        reply := refuse ⟨s, error⟩ }
  | failed {sql detail : String} {error : EngineError} {cause : Option Raised} (valid : issues = [])
      (asked : e.query operation (Store.trailer store) s = .ok sql)
      (failure : failure? (Store.execute store sql).2 = some (detail, cause))
      (same : error = .store operation tableName detail cause)
      (code : error.code = if operation = .create then 101 else 102)
      (message : error.message =
        (if operation = .create then "Failed to create table " else "Failed to drop table ") ++
          tableName ++ ": " ++ detail) :
    Ends e operation store s tableName issues .failed
      { received := [sql]
        log :=
          [⟨.info, (if operation = .create then "Creating table " else "Dropping table ") ++
              tableName⟩,
            ⟨.error, (if cause.isSome then "Store raised while executing on " else
              "Store reported failure on ") ++ tableName ++ ": " ++ detail⟩]
        reply := refuse ⟨s, error⟩ }
  | done {sql : String} (valid : issues = [])
      (asked : e.query operation (Store.trailer store) s = .ok sql)
      (success : failure? (Store.execute store sql).2 = none) :
    Ends e operation store s tableName issues .done
      { received := [sql]
        log :=
          [⟨.info, (if operation = .create then "Creating table " else "Dropping table ") ++
              tableName⟩]
        reply := .ok () }

variable {e : Engine} {operation : Operation} {store : σ} {s : Schema} {tableName : String}
  {issues : List Issue}

/-- A request does not end in two ways. -/
theorem Ends.unique {ending other : Ending} {seen seen' : Seen}
    (ends : Ends e operation store s tableName issues ending seen)
    (ends' : Ends e operation store s tableName issues other seen') : ending = other := by
  cases ends with
  | invalid found =>
    cases ends' with
    | invalid => rfl
    | failed valid => exact absurd valid found
    | done valid => exact absurd valid found
  | failed valid asked failure =>
    cases ends' with
    | invalid found => exact absurd valid found
    | failed => rfl
    | done _ asked' success =>
      cases asked.symm.trans asked'
      cases failure.symm.trans success
  | done valid asked success =>
    cases ends' with
    | invalid found => exact absurd valid found
    | failed _ asked' failure =>
      cases asked.symm.trans asked'
      cases failure.symm.trans success
    | done => rfl

theorem ends_of_issues (validated : e.validate s = .ok issues) (found : issues ≠ [])
    (named : s.tableName = .ok tableName) :
    Ends e operation store s tableName issues .invalid (seen e operation store s) := by
  have asked : e.query operation (Store.trailer ({ store } : Witnessed σ)) s =
      refuse (.invalid tableName issues) := query_of_issues validated found named
  rw [seen, run_of_query_error asked]
  exact .invalid found rfl rfl rfl

theorem announcement_eq (operation : Operation) (tableName : String) :
    announcement operation tableName =
      ⟨.info, (if operation = .create then "Creating table " else "Dropping table ") ++
        tableName⟩ := by
  cases operation <;> rfl

theorem exists_ends_of_query {sql : String} (valid : issues = [])
    (asked : e.query operation (Store.trailer store) s = .ok sql)
    (named : s.tableName = .ok tableName) :
    ∃ ending, Ends e operation store s tableName issues ending (seen e operation store s) := by
  have asked' : e.query operation (Store.trailer ({ store } : Witnessed σ)) s = .ok sql := asked
  obtain ⟨own, called, ran⟩ := run_of_query_ok asked'
  cases called.symm.trans named
  have answer : (Store.execute ({ store } : Witnessed σ) sql).2 = (Store.execute store sql).2 := rfl
  rw [seen, ran, answer, announcement_eq]
  cases failure : failure? (Store.execute store sql).2 with
  | some report =>
    obtain ⟨detail, cause⟩ := report
    rw [settle_of_failure failure]
    refine ⟨.failed, .failed valid asked failure rfl ?_ ?_⟩ <;> cases operation <;> rfl
  | none =>
    rw [settle_of_success failure]
    exact ⟨.done, .done valid asked failure⟩

/-- A store that answers every statement alike. -/
structure ConstantStore where
  answer : Except Raised StoreResult

instance : Store ConstantStore where
  trailer _ := ""
  execute store _ := (store, store.answer)

end Ends

end Engine
end TableDdl
