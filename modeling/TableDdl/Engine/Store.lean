import TableDdl.Failure

/-!
# Stores

A store executes statements. It answers each of them with a result that may report a failure, or
it raises an exception. What stands behind the store is a state of its own.
-/

namespace TableDdl

/-- The answer of a store to a statement. -/
structure StoreResult where
  diagnosticOutput : String := ""
  errorMessage : String := ""
  deriving DecidableEq, Repr, Inhabited

namespace StoreResult

/-- The texts that report a failure. -/
def reports (r : StoreResult) : List String :=
  [r.diagnosticOutput, r.errorMessage].filter (· ≠ "")

/-- Whether the answer reports a failure. -/
def failed (r : StoreResult) : Bool :=
  !r.reports.isEmpty

/-- The reported texts, one below the other. -/
def detail (r : StoreResult) : String :=
  "\n".intercalate r.reports

/-- An answer reports a failure exactly if one of its texts is not empty. -/
theorem failed_iff (r : StoreResult) :
    r.failed = true ↔ r.diagnosticOutput ≠ "" ∨ r.errorMessage ≠ "" := by
  by_cases first : r.diagnosticOutput = "" <;> by_cases second : r.errorMessage = "" <;>
    simp [failed, reports, first, second]

end StoreResult

/-- An exception that a store raises: its kind and its text. -/
structure Raised where
  kind : String
  text : String
  deriving DecidableEq, Repr

/-- A type of states from which statements are executed. -/
class Store (σ : Type) where
  /-- What follows the closing parenthesis of a statement that creates a table. -/
  trailer : σ → String
  /-- The state after a statement, and the answer to it. -/
  execute : σ → String → σ × Except Raised StoreResult

/-- A store that keeps the statements instead of executing them. -/
structure RecordingStore where
  trailer : String := ""
  statements : List String := []
  deriving Repr, Inhabited

instance : Store RecordingStore where
  trailer store := store.trailer
  execute store sql := ({ store with statements := store.statements ++ [sql] }, .ok {})

/-- What follows the closing parenthesis for a collation, if there is one. -/
def collationTrailer (collation : String) : String :=
  if collation = "" then "" else "COLLATE " ++ collation

end TableDdl
