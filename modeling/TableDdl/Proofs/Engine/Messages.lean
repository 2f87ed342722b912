import TableDdl.Proofs.Engine.Calls
import TableDdl.Proofs.Engine.Endings

/-!
# Messages of a connection

A store over a connection puts the messages that the cursor reports below one another and hands on
the text. Whether the statement failed is then read off the text alone. So the messages get through
to whoever made the request, unless there is a single one and it is empty: it leaves no text, and
the request is granted.
-/

namespace TableDdl

/-- Texts that are put below one another leave no text only if there are none of them, or one that
is empty. -/
theorem Text.intercalate_newline_eq_empty_iff {texts : List String} :
    "\n".intercalate texts = "" ↔ texts = [] ∨ texts = [""] := by
  cases texts with
  | nil => simp
  | cons first rest =>
    cases rest with
    | nil => simp
    | cons second rest => simp

namespace ConnectionStore

open StoreResult

/-- The answer for messages that leave a text is a failure with this text. -/
theorem failure?_answer_of_ne {messages : List String} (text : "\n".intercalate messages ≠ "") :
    failure? (.ok (answer messages)) = some ("\n".intercalate messages, none) := by
  cases messages with
  | nil => exact absurd String.intercalate_nil text
  | cons first rest => simp [failure?, answer, text]

theorem failure?_answer_of_eq {messages : List String} (empty : "\n".intercalate messages = "") :
    failure? (.ok (answer messages)) = none := by
  rcases Text.intercalate_newline_eq_empty_iff.mp empty with rfl | rfl <;> rfl

variable {γ : Type} [Connection γ]

/-- None of the calls for a statement raises an exception. -/
def IsQuiet (store : ConnectionStore γ) (sql : String) : Prop :=
  ∀ event ∈ Connection.events store.connection [.cursor, .execute sql, .close, .commit],
    event.raised = none

/-- What the cursor reports after a statement, if it keeps a list. -/
def reported (store : ConnectionStore γ) (sql : String) : Option (List String) :=
  Connection.messages (store.made [.cursor, .execute sql]).connection

theorem execute_of_isQuiet {store : ConnectionStore γ} {sql : String} (quiet : store.IsQuiet sql) :
    (store.execute sql).2 = .ok (answer ((store.reported sql).getD [])) := by
  simp only [IsQuiet, Connection.events, List.forall_mem_cons] at quiet
  obtain ⟨opened, ran, left, committed, -⟩ := quiet
  simp [execute, call_eq, made, Connection.afterCalls, reported, opened, ran, left, committed]

end ConnectionStore

namespace Engine

variable {γ : Type} [Connection γ]

/-- The messages that were reported get through to whoever made a request: it is granted exactly if
there are none, and else it is refused with all of them, as a failure of the store to create or to
drop the table. -/
structure GetThrough (operation : Operation) (s : Schema) (reported : Option (List String))
    (outcome : Attempt EngineError Unit) : Prop where
  granted : outcome = .ok () ↔ reported = none ∨ reported = some []
  refused : ∀ messages, reported = some messages → messages ≠ [] →
    ∃ tableName error, s.tableName = .ok tableName ∧ outcome = refuse error ∧
      error = .store operation tableName ("\n".intercalate messages) none ∧
      error.code = match operation with
        | .create => 101
        | .drop => 102

section Run

variable {e : Engine} {operation : Operation} {store : ConnectionStore γ} {s : Schema}
  {reported : Option (List String)}

/-- If no call raises an exception, the text that the messages leave decides how a request ends. -/
theorem outcome_of_isQuiet {sql : String} (asked : e.query operation store.trailer s = .ok sql)
    (quiet : store.IsQuiet sql) (reports : store.reported sql = reported) :
    let text := "\n".intercalate (reported.getD [])
    (text = "" → (e.run operation store s).outcome = .ok ()) ∧
      (text ≠ "" → ∃ tableName, s.tableName = .ok tableName ∧
        (e.run operation store s).outcome = refuse (.store operation tableName text none)) := by
  have asked' : e.query operation (Store.trailer store) s = .ok sql := asked
  obtain ⟨tableName, named, ran⟩ := run_of_query_ok asked'
  have answered : (Store.execute store sql).2 =
      .ok (ConnectionStore.answer (reported.getD [])) :=
    reports ▸ ConnectionStore.execute_of_isQuiet quiet
  rw [ran, answered]
  constructor
  · intro empty
    rw [settle_of_success (ConnectionStore.failure?_answer_of_eq empty)]
  · intro text
    rw [settle_of_failure (ConnectionStore.failure?_answer_of_ne text)]
    exact ⟨tableName, named, rfl⟩

/-- A request that has no statement does not let anything through. -/
theorem exists_query_of_getThrough (valid : e.validate s = .ok [])
    (through : GetThrough operation s reported (e.run operation store s).outcome) :
    ∃ sql, e.query operation store.trailer s = .ok sql := by
  cases asked : e.query operation store.trailer s with
  | ok sql => exact ⟨sql, rfl⟩
  | error failure =>
    have asked' : e.query operation (Store.trailer store) s = .error failure := asked
    have ended : (e.run operation store s).outcome = .error failure := by
      rw [run_of_query_error asked']
    rw [ended] at through
    -- Neither a grant nor a refusal: the request ended in a fault, and the schema has no issues.
    by_cases nothing : reported = none ∨ reported = some []
    · cases through.granted.mpr nothing
    · obtain ⟨messages, rfl⟩ := Option.ne_none_iff_exists'.mp (not_or.mp nothing).1
      have listed : messages ≠ [] := fun same => nothing (.inr (congrArg some same))
      obtain ⟨tableName, error, -, refused, -⟩ := through.refused messages rfl listed
      cases refused
      exact absurd asked (query_ne_refused_of_valid valid error)

/-- Messages that leave a text, or nothing at all, get through. -/
theorem getThrough_of_query {sql : String} (asked : e.query operation store.trailer s = .ok sql)
    (quiet : store.IsQuiet sql) (reports : store.reported sql = reported)
    (single : reported ≠ some [""]) :
    GetThrough operation s reported (e.run operation store s).outcome := by
  obtain ⟨silent, loud⟩ := outcome_of_isQuiet asked quiet reports
  have text_iff :
      "\n".intercalate (reported.getD []) = "" ↔ reported = none ∨ reported = some [] := by
    rw [Text.intercalate_newline_eq_empty_iff]
    cases reported with
    | none => simp
    | some messages =>
      have other : messages ≠ [""] := fun same => single (congrArg some same)
      simp [other]
  refine ⟨⟨fun granted => ?_, fun nothing => silent (text_iff.mpr nothing)⟩, ?_⟩
  · by_contra something
    obtain ⟨tableName, -, refused⟩ := loud (mt text_iff.mp something)
    cases granted.symm.trans refused
  · rintro messages rfl listed
    obtain ⟨tableName, named, refused⟩ := loud (mt text_iff.mp (by simpa using listed))
    exact ⟨tableName, _, named, refused, rfl, by cases operation <;> rfl⟩

/-- If no call raises an exception, what the cursor reported for a valid schema gets through exactly
if the statement can be written and the cursor did not report a single message that is empty. A
request with such a message is granted. -/
theorem getThrough_iff (valid : e.validate s = .ok [])
    (quiet : ∀ sql, e.query operation store.trailer s = .ok sql → store.IsQuiet sql)
    (reports : ∀ sql, e.query operation store.trailer s = .ok sql → store.reported sql = reported) :
    (GetThrough operation s reported (e.run operation store s).outcome ↔
      (∃ sql, e.query operation store.trailer s = .ok sql) ∧ reported ≠ some [""]) ∧
      ∀ sql, e.query operation store.trailer s = .ok sql → reported = some [""] →
        (e.run operation store s).outcome = .ok () := by
  have granted (sql : String) (asked : e.query operation store.trailer s = .ok sql)
      (single : reported = some [""]) : (e.run operation store s).outcome = .ok () := by
    subst single
    exact (outcome_of_isQuiet asked (quiet sql asked) (reports sql asked)).1 rfl
  refine ⟨⟨fun through => ?_, ?_⟩, granted⟩
  · obtain ⟨sql, asked⟩ := exists_query_of_getThrough valid through
    refine ⟨⟨sql, asked⟩, fun single => ?_⟩
    have silent := through.granted.mp (granted sql asked single)
    simp [single] at silent
  · rintro ⟨⟨sql, asked⟩, single⟩
    exact getThrough_of_query asked (quiet sql asked) (reports sql asked) single

end Run

/-- A connection whose calls go through, and whose cursor reports the same after every statement. -/
structure ReportingConnection where
  messages : Option (List String)

instance : Connection ReportingConnection where
  call connection _ := (connection, none)
  messages connection := connection.messages

theorem ReportingConnection.isQuiet (store : ConnectionStore ReportingConnection) (sql : String) :
    store.IsQuiet sql := by
  simp [ConnectionStore.IsQuiet, Connection.events, Connection.call]

/-- A table with one column. -/
def countedTable : Schema :=
  { baseName := .str "t"
    columns :=
      NameMap.empty.insert (.text "a") (.str "a") { name := .str "a", type := some "int" } }

theorem getThrough_emptyMessages :
    let store := ConnectionStore.of (ReportingConnection.mk (some ["", ""])) (some "latin1")
    standard.validate countedTable = .ok [] ∧
      standard.query .create store.trailer countedTable =
        .ok "CREATE TABLE t (\na INT NOT NULL\n) COLLATE latin1" ∧
      (∀ sql, store.IsQuiet sql ∧ store.reported sql = some ["", ""]) ∧
      GetThrough .create countedTable (some ["", ""])
        (standard.run .create store countedTable).outcome := by
  intro store
  have valid : standard.validate countedTable = .ok [] := by decide +kernel
  have asked : standard.query .create store.trailer countedTable =
      .ok "CREATE TABLE t (\na INT NOT NULL\n) COLLATE latin1" := rfl
  have quiet (sql : String) : store.IsQuiet sql := ReportingConnection.isQuiet store sql
  have reports (sql : String) : store.reported sql = some ["", ""] := rfl
  have through :=
    (getThrough_iff valid (fun sql _ => quiet sql) (fun sql _ => reports sql)).1.mpr
      ⟨⟨_, asked⟩, by decide⟩
  exact ⟨valid, asked, fun sql => ⟨quiet sql, reports sql⟩, through⟩

/-- A single message that is empty does not get through: the request is granted. -/
theorem not_getThrough_emptyMessage :
    let store := ConnectionStore.of (ReportingConnection.mk (some [""])) none
    standard.validate countedTable = .ok [] ∧
      (∀ sql, store.IsQuiet sql ∧ store.reported sql = some [""]) ∧
      (standard.run .create store countedTable).outcome = .ok () ∧
      ¬ GetThrough .create countedTable (some [""])
          (standard.run .create store countedTable).outcome := by
  intro store
  have valid : standard.validate countedTable = .ok [] := by decide +kernel
  have granted : (standard.run .create store countedTable).outcome = .ok () := rfl
  refine ⟨valid, fun sql => ⟨ReportingConnection.isQuiet store sql, rfl⟩, granted, ?_⟩
  intro through
  have silent := through.granted.mp granted
  simp at silent

end Engine
end TableDdl
