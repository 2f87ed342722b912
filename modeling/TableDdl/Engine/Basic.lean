import TableDdl.Ddl.Clause
import TableDdl.Engine.Store
import TableDdl.Validation

/-!
# The engine

The engine makes the statement that creates or drops the table of a schema and hands it to a
store. A schema with issues gets no statement, and nothing reaches the store for it. What the
engine does is logged line by line.
-/

namespace TableDdl

/-- What to do with a table. -/
inductive Operation where
  | create
  | drop
  deriving DecidableEq, Repr

/-- The weight of a log line. -/
inductive LogLevel where
  | info
  | warning
  | error
  deriving DecidableEq, Repr

/-- The name of a level. -/
def LogLevel.label : LogLevel → String
  | .info => "INFO"
  | .warning => "WARNING"
  | .error => "ERROR"

/-- A line of the log. -/
structure LogLine where
  level : LogLevel
  text : String
  deriving DecidableEq, Repr

/-- Why the engine does not do what it was asked to. -/
inductive EngineError where
  /-- The schema of the table has issues. -/
  | invalid (tableName : String) (issues : List Issue)
  /-- The store raised the given exception, or reported a failure. -/
  | store (operation : Operation) (tableName detail : String) (cause : Option Raised)
  deriving Repr

namespace EngineError

/-- The text of the error. -/
def message : EngineError → String
  | .invalid tableName issues =>
    tableName ++ " failed with " ++ toString issues.length ++ " errors:\n  - " ++
      "\n  - ".intercalate (issues.map (·.message))
  | .store .create tableName detail _ => "Failed to create table " ++ tableName ++ ": " ++ detail
  | .store .drop tableName detail _ => "Failed to drop table " ++ tableName ++ ": " ++ detail

/-- The number of the error. -/
def code : EngineError → Nat
  | .invalid .. => 201
  | .store .create .. => 101
  | .store .drop .. => 102

/-- The table in question. -/
def tableName : EngineError → String
  | .invalid tableName _ => tableName
  | .store _ tableName _ _ => tableName

end EngineError

/-- An error of the engine as it reaches whoever asked: the schema that it is about comes with
it. -/
structure Refusal where
  schema : Schema
  error : EngineError

/-- What reaches whoever asked for something about a schema. -/
def Refusal.about {α : Type} (s : Schema) (outcome : Attempt EngineError α) : Attempt Refusal α :=
  outcome.mapError (·.mapReason (Refusal.mk s))

/-- A statement about a table. -/
structure Statement where
  tableName : String
  sql : String
  deriving DecidableEq, Repr

/-- An engine: how schemas are validated, and how their clauses are made. -/
structure Engine where
  validate : Schema → Except Fault (List Issue)
  clauses : Schema → Except Fault (List String)

namespace Engine

/-- The engine with the checks and the clauses of this library. -/
def standard : Engine := ⟨Schema.issues, Schema.clauses⟩

/-- Refuse a schema with issues. -/
def check (e : Engine) (s : Schema) : Attempt EngineError Unit := do
  let issues ← e.validate s
  if issues.isEmpty then return () else refuse (.invalid (← s.tableName) issues)

/-- The statement that creates the table. -/
def createStatement (e : Engine) (trailer : String) (s : Schema) :
    Attempt EngineError Statement := do
  e.check s
  let clauses ← e.clauses s
  let tableName ← s.tableName
  let sql := "CREATE TABLE " ++ tableName ++ " (\n" ++ ",\n".intercalate clauses ++ "\n)"
  return ⟨tableName, if trailer = "" then sql else sql ++ " " ++ trailer⟩

/-- The statement that drops the table. -/
def dropStatement (e : Engine) (s : Schema) : Attempt EngineError Statement := do
  e.check s
  let tableName ← s.tableName
  return ⟨tableName, "DROP TABLE IF EXISTS " ++ tableName ++ ";"⟩

/-- The statement for an operation. -/
def statement (e : Engine) (operation : Operation) (trailer : String) (s : Schema) :
    Attempt EngineError Statement :=
  match operation with
  | .create => e.createStatement trailer s
  | .drop => e.dropStatement s

/-- The text of the statement for an operation. -/
def query (e : Engine) (operation : Operation) (trailer : String) (s : Schema) :
    Attempt EngineError String :=
  (·.sql) <$> e.statement operation trailer s

/-- The log of making a statement: a warning if the schema has issues. -/
def queryLog {α : Type} : Attempt EngineError α → List LogLine
  | .error (.refused (.invalid tableName issues)) =>
    [⟨.warning, "Schema " ++ tableName ++ " failed validation with " ++
      toString issues.length ++ " errors"⟩]
  | _ => []

/-- The line that announces an operation on a table. -/
def announcement (operation : Operation) (tableName : String) : LogLine :=
  match operation with
  | .create => ⟨.info, "Creating table " ++ tableName⟩
  | .drop => ⟨.info, "Dropping table " ++ tableName⟩

/-- What the answer of a store amounts to, with the line that reports a failure. -/
def settle (operation : Operation) (tableName : String) :
    Except Raised StoreResult → List LogLine × Attempt EngineError Unit
  | .error raised =>
    ([⟨.error, "Store raised while executing on " ++ tableName ++ ": " ++ raised.text⟩],
      refuse (.store operation tableName raised.text (some raised)))
  | .ok result =>
    if result.failed then
      ([⟨.error, "Store reported failure on " ++ tableName ++ ": " ++ result.detail⟩],
        refuse (.store operation tableName result.detail none))
    else ([], .ok ())

/-- The result of an operation: the store after it, the log, and how it ended. -/
structure Run (σ : Type) where
  store : σ
  log : List LogLine
  outcome : Attempt EngineError Unit

/-- Do an operation: make the statement and hand it to the store. -/
def run {σ : Type} [Store σ] (e : Engine) (operation : Operation) (store : σ) (s : Schema) :
    Run σ :=
  match e.statement operation (Store.trailer store) s with
  | .error failure => ⟨store, queryLog (.error failure : Attempt EngineError Unit),
      .error failure⟩
  | .ok statement =>
    let (store, answer) := Store.execute store statement.sql
    let (log, outcome) := settle operation statement.tableName answer
    ⟨store, announcement operation statement.tableName :: log, outcome⟩

end Engine

end TableDdl
