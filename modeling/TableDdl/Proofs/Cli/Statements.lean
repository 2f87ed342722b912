import TableDdl.Files.Tree
import TableDdl.Proofs.Cli.Commands
import TableDdl.Proofs.Cli.Stdout
import TableDdl.Proofs.Engine.Checked
import TableDdl.Proofs.Engine.Session

/-!
# Printing statements

Statements are made for one schema after the other and printed together at the end. So they are
printed for all schemas or for none, and the first schema that gets no statement decides how the
command ends. Only a stream that refuses one of the statements ends the printing in between.
-/

namespace TableDdl.Cli

variable {out : Stdout} {operation : Operation} {files : Files} {path : Path} {settings : Settings}

/-- How printing statements ends where one cannot be made. -/
def stopped (errors : String) : Failure EngineError → Outcome
  | .fault f => .faulted f "" errors
  | .refused (.invalid tableName issues) =>
    let e := EngineError.invalid tableName issues
    .ended 1 "" (errors ++ complaint "Validation error" e.message)
  | .refused e => .ended 1 "" (errors ++ complaint "Error" e.message)

/-- How printing statements ends, behind those that a store has kept already. -/
def printedAll (out : Stdout) (kept : List String) (errors : String) :
    Attempt EngineError (List String) → Outcome
  | .ok sqls =>
    out.print ((kept ++ sqls).map printed) "" errors fun output => .ended 0 output errors
  | .error failure => stopped errors failure

theorem logText_append (first later : List LogLine) :
    logText (first ++ later) = logText first ++ logText later := by
  rw [logText, List.map_append, String.join_append]
  rfl

section Render

variable {store : RecordingStore} {errors : String} {s : Schema} {rest : List Schema}

/-- What is logged while statements are made for schemas, one after the other. -/
def renderLog (operation : Operation) (trailer : String) : List Schema → List LogLine
  | [] => []
  | s :: rest =>
    let run := Engine.standard.run operation ({ trailer } : RecordingStore) s
    match run.outcome with
    | .ok () => run.log ++ renderLog operation trailer rest
    | .error _ => run.log

/-- A store that keeps statements takes any of them, so the next schema comes to its turn. -/
theorem renderAll_cons_of_query_ok (out : Stdout) (errors : String) (rest : List Schema)
    {sql : String} (made : Engine.standard.query operation store.trailer s = .ok sql) :
    ∃ log, renderLog operation store.trailer (s :: rest) =
        log ++ renderLog operation store.trailer rest ∧
      renderAll out operation store errors (s :: rest) =
        renderAll out operation { store with statements := store.statements ++ [sql] }
          (errors ++ logText log) rest := by
  have alone : Engine.standard.query operation
      (Store.trailer ({ trailer := store.trailer } : RecordingStore)) s = .ok sql := made
  have behind : Engine.standard.query operation (Store.trailer store) s = .ok sql := made
  obtain ⟨tableName, named, ran⟩ := Engine.run_of_query_ok behind
  obtain ⟨tableName', named', ran'⟩ := Engine.run_of_query_ok alone
  cases named.symm.trans named'
  refine ⟨[Engine.announcement operation tableName], ?_, ?_⟩
  · rw [renderLog, ran']
    rfl
  · rw [renderAll, ran]
    rfl

/-- A schema that gets no statement ends the run. -/
theorem renderAll_cons_of_query_error {failure : Failure EngineError}
    (failed : Engine.standard.query operation store.trailer s = .error failure) :
    renderAll out operation store errors (s :: rest) =
      stopped (errors ++ logText (renderLog operation store.trailer (s :: rest))) failure := by
  have alone : Engine.standard.query operation
      (Store.trailer ({ trailer := store.trailer } : RecordingStore)) s = .error failure := failed
  have behind : Engine.standard.query operation (Store.trailer store) s = .error failure := failed
  rw [renderAll, renderLog, Engine.run_of_query_error behind, Engine.run_of_query_error alone]
  cases failure with
  | fault f => rfl
  | refused e => cases e <;> rfl

/-- Statements are made one after the other, up to the first that cannot be made; only then is
anything printed. -/
theorem renderAll_eq (store : RecordingStore) (errors : String) (schemas : List Schema) :
    renderAll out operation store errors schemas =
      printedAll out store.statements
        (errors ++ logText (renderLog operation store.trailer schemas))
        (schemas.mapM (Engine.standard.query operation store.trailer)) := by
  induction schemas generalizing store errors with
  | nil => simp [renderAll, renderLog, printedAll, logText]
  | cons s rest ih =>
    rw [List.mapM_cons]
    cases made : Engine.standard.query operation store.trailer s with
    | error failure => exact renderAll_cons_of_query_error made
    | ok sql =>
      obtain ⟨log, logged, ran⟩ := renderAll_cons_of_query_ok out errors rest made
      rw [ran, ih, logged, logText_append, ← String.append_assoc, Result.ok_bind]
      cases rest.mapM (Engine.standard.query operation store.trailer) with
      | error failure => rfl
      | ok sqls => simp [printedAll]

end Render

section Outcome

variable {schemas : List Schema} {errors : String} {failure : Failure EngineError}

@[simp] theorem output_stopped (errors : String) (failure : Failure EngineError) :
    (stopped errors failure).output = "" := by
  unfold stopped
  split <;> rfl

/-- A command that stops does not end with status zero, and it ends with a status at all only if
the schema is refused. -/
theorem status_stopped_eq_ok_iff {n : Nat} :
    (stopped errors failure).status = .ok n ↔ n = 1 ∧ ∃ e, failure = .refused e := by
  cases failure with
  | fault f => simp [stopped, Outcome.faulted]
  | refused e => cases e <;> simp [stopped, Outcome.ended, eq_comm]

section Printed

variable {sqls before after : List String} {sql : String}

theorem printedAll_of_takes (all : ∀ sql ∈ sqls, out.takes sql = true) :
    printedAll out [] errors (.ok sqls) = .ended 0 (String.join (sqls.map printed)) errors := by
  rw [printedAll, print_of_takes (by simpa using all), String.empty_append]
  rfl

/-- Of statements of which the stream refuses one, those before it are printed. -/
theorem printedAll_of_refused (all : ∀ t ∈ before, out.takes t = true)
    (untaken : out.takes sql = false) :
    ∃ f, out.refusal? sql = some f ∧
      printedAll out [] errors (.ok (before ++ sql :: after)) =
        .faulted f (String.join (before.map printed)) errors := by
  obtain ⟨codePoint, first, last, refused⟩ := Stdout.exists_refusal untaken
  have shown : out.refusal? (printed sql) = out.refusal? sql := by
    obtain ⟨tail, same, taken⟩ := printed_eq_append sql
    rw [same, Stdout.refusal?_append untaken (taken out)]
  refine ⟨_, refused, ?_⟩
  rw [printedAll, List.nil_append, List.map_append, List.map_cons,
    print_of_refused (by simpa using all) (shown.trans refused), String.empty_append]

/-- Printing ends with status zero if all statements are made and taken, with status one if a
schema is refused its statement, and otherwise by a fault. -/
theorem status_printedAll_eq_ok_iff {made : Attempt EngineError (List String)} {n : Nat} :
    (printedAll out [] errors made).status = .ok n ↔
      (n = 0 ∧ ∃ sqls, made = .ok sqls ∧ ∀ sql ∈ sqls, out.takes sql = true) ∨
        (n = 1 ∧ ∃ e, made = .error (.refused e)) := by
  cases made with
  | error failure => simp [printedAll, status_stopped_eq_ok_iff]
  | ok sqls =>
    rcases out.takes_all_or_first sqls with all | ⟨before, sql, after, rfl, all, untaken⟩
    · rw [printedAll_of_takes all]
      constructor
      · intro ended
        cases ended
        exact .inl ⟨rfl, sqls, rfl, all⟩
      · rintro (⟨rfl, -⟩ | ⟨-, e, refused⟩)
        · rfl
        · cases refused
    · obtain ⟨f, -, ended⟩ := printedAll_of_refused all untaken
      rw [ended]
      simp [Outcome.faulted, or_imp, forall_and, untaken]

/-- Printing ends with status zero exactly if all statements are made and taken, and they are what
is printed then. -/
theorem status_printedAll_eq_zero_iff {made : Attempt EngineError (List String)} :
    (printedAll out [] errors made).status = .ok 0 ↔
      ∃ sqls, made = .ok sqls ∧ (∀ sql ∈ sqls, out.takes sql = true) ∧
        (printedAll out [] errors made).output = String.join (sqls.map printed) := by
  rw [status_printedAll_eq_ok_iff]
  constructor
  · rintro (⟨-, sqls, rfl, all⟩ | ⟨other, -⟩)
    · exact ⟨sqls, rfl, all, by rw [printedAll_of_takes all]; rfl⟩
    · cases other
  · rintro ⟨sqls, rfl, all, -⟩
    exact .inl ⟨rfl, sqls, rfl, all⟩

/-- A stream that takes all statements gets nothing unless the printing ends with status zero. -/
theorem output_printedAll_of_ne_zero {made : Attempt EngineError (List String)}
    (takes : ∀ sqls, made = .ok sqls → ∀ sql ∈ sqls, out.takes sql = true)
    (other : (printedAll out [] errors made).status ≠ .ok 0) :
    (printedAll out [] errors made).output = "" := by
  cases made with
  | error failure => exact output_stopped errors failure
  | ok sqls => exact absurd (by rw [printedAll_of_takes (takes sqls rfl)]; rfl) other

end Printed

/-- What follows the statement that creates a table under the given settings. -/
def trailerOf (settings : Settings) : String :=
  collationTrailer (settings.collation.getD "")

/-- How printing statements ends where the schemas cannot be loaded. -/
def unloaded : Failure LoadError → Outcome
  | .refused e => .ended 1 "" (complaint "Error" e.message)
  | .fault f => .faulted f "" ""

theorem status_unloaded_ne_zero (failure : Failure LoadError) :
    (unloaded failure).status ≠ .ok 0 := by
  cases failure <;> simp [unloaded, Outcome.ended, Outcome.faulted]

theorem output_unloaded (failure : Failure LoadError) : (unloaded failure).output = "" := by
  cases failure <;> rfl

/-- Whatever is asked for, schemas that cannot be loaded end it before anything is printed. -/
theorem render_of_load_error {failure : Failure LoadError} (operation : Operation)
    (failed : Loading.load files path settings.tablePrefix = .error failure) :
    render out operation files path settings = unloaded failure := by
  cases failure <;> simp only [render, failed, unloaded]

theorem render_of_load_ok (operation : Operation)
    (loaded : Loading.load files path settings.tablePrefix = .ok schemas) :
    render out operation files path settings =
      printedAll out [] (logText (renderLog operation (trailerOf settings) schemas))
        (schemas.mapM (Engine.standard.query operation (trailerOf settings))) := by
  have ended : renderAll out operation { trailer := trailerOf settings } "" schemas = _ :=
    renderAll_eq { trailer := trailerOf settings } "" schemas
  rw [render, loaded]
  simpa [trailerOf] using ended

/-- Schemas are refused for the issues of the first of them that has any. -/
theorem first_invalid_of_refused {trailer : String} {e : EngineError}
    (refused : schemas.mapM (Engine.standard.query operation trailer) = .error (.refused e)) :
    ∃ before s after tableName issue issues, schemas = before ++ s :: after ∧
      (∀ t ∈ before, t.issues = .ok []) ∧ s.issues = .ok (issue :: issues) ∧
      s.tableName = .ok tableName ∧ e = .invalid tableName (issue :: issues) := by
  obtain ⟨before, s, after, rfl, fine, stops⟩ := Result.mapM_eq_error_iff.mp refused
  obtain ⟨tableName, issue, issues, found, named, rfl⟩ := Engine.issues_of_query_refused stops
  refine ⟨before, s, after, tableName, issue, issues, rfl, ?_, found, named, rfl⟩
  intro t member
  obtain ⟨sql, asked⟩ := fine t member
  exact Engine.issues_of_query_ok asked

/-- If schemas are refused, the error is the complaint about the first of them that has issues. -/
theorem errors_printedAll_of_ne_zero {trailer : String} {n : Nat}
    (ended : (printedAll out [] errors
      (schemas.mapM (Engine.standard.query operation trailer))).status = .ok n) (other : n ≠ 0) :
    n = 1 ∧ ∃ before s after tableName issue issues, schemas = before ++ s :: after ∧
      (∀ t ∈ before, t.issues = .ok []) ∧ s.issues = .ok (issue :: issues) ∧
      s.tableName = .ok tableName ∧
      (printedAll out [] errors
          (schemas.mapM (Engine.standard.query operation trailer))).errors =
        errors ++
          complaint "Validation error" (EngineError.invalid tableName (issue :: issues)).message := by
  obtain ⟨zero, -⟩ | ⟨rfl, e, refused⟩ := status_printedAll_eq_ok_iff.mp ended
  · exact absurd zero other
  · obtain ⟨before, s, after, tableName, issue, issues, split, fine, found, named, rfl⟩ :=
      first_invalid_of_refused refused
    refine ⟨rfl, before, s, after, tableName, issue, issues, split, fine, found, named, ?_⟩
    rw [refused]
    rfl

theorem logText_eq_lines (log : List LogLine) :
    ∃ lines : List String, logText log = String.join (lines.map (· ++ "\n")) :=
  ⟨log.map (·.text), by rw [logText, List.map_map]; rfl⟩

theorem complaint_invalid (tableName : String) (issues : List Issue) :
    complaint "Validation error" (EngineError.invalid tableName issues).message =
      "Validation error: " ++ tableName ++ " failed with " ++ toString issues.length ++
        " errors:\n  - " ++ "\n  - ".intercalate (issues.map (·.message)) ++ "\n" := by
  have start : "Validation error" ++ ": " = "Validation error: " := by simp
  unfold complaint EngineError.message
  rw [start]
  simp only [String.append_assoc]

end Outcome

/-- The directory with a file of two tables, of which the second has a column without a type. -/
def untypedSecond : Files :=
  FileTree.lookup
    { files := [(["t.yaml"],
      ("tables:\n- table: a\n  columns:\n  - {name: x, type: int}\n" ++
        "- table: b\n  columns:\n  - name: y\n").toUTF8.toList)] }

end TableDdl.Cli
