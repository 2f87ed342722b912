import TableDdl.Engine.Basic
import TableDdl.Proofs.Result

/-!
# Sessions with an engine

A session is a sequence of requests to one engine over one store. What a request would send can be
asked for without a store being touched; the main statement says that a session sends exactly what
could have been asked for, request by request, and that a request is affected by those before it
through nothing but the statements that the store received.
-/

namespace TableDdl

/-- A request to an engine: an operation on the table of a schema as it is at that moment. -/
structure Engine.Request where
  operation : Operation
  schema : Schema

/-- A store that keeps a list of the statements that it receives, and otherwise does what the store
behind it does. -/
structure Witnessed (σ : Type) where
  store : σ
  received : List String := []

instance {σ : Type} [Store σ] : Store (Witnessed σ) where
  trailer w := Store.trailer w.store
  execute w sql :=
    ({ store := (Store.execute w.store sql).1, received := w.received ++ [sql] },
      (Store.execute w.store sql).2)

namespace Store

variable {σ τ : Type} [Store σ] [Store τ]

/-- The store after statements, whatever it answered to them. -/
def feed (store : σ) (statements : List String) : σ :=
  statements.foldl (fun store sql => (execute store sql).1) store

/-- Whatever statements they are given first, the two stores show the same trailer and give the
same answer to the next statement. -/
def AnswersAlike (a : σ) (b : τ) : Prop :=
  ∀ statements, trailer (feed a statements) = trailer (feed b statements) ∧
    ∀ sql, (execute (feed a statements) sql).2 = (execute (feed b statements) sql).2

theorem AnswersAlike.next {a : σ} {b : τ} (alike : AnswersAlike a b) (sql : String) :
    AnswersAlike (execute a sql).1 (execute b sql).1 :=
  fun statements => alike (sql :: statements)

theorem feed_append (store : σ) (first later : List String) :
    feed store (first ++ later) = feed (feed store first) later :=
  List.foldl_append

/-- Whether a store keeps a list makes no difference to its answers. -/
theorem answersAlike_witnessed (store : σ) (received : List String) :
    AnswersAlike store ({ store, received } : Witnessed σ) := by
  intro statements
  induction statements generalizing store received with
  | nil => exact ⟨rfl, fun _ => rfl⟩
  | cons sql rest ih => exact ih (execute store sql).1 (received ++ [sql])

end Store

namespace Engine

variable {σ τ : Type} [Store σ] [Store τ]

/-- One request of a session: the store before it, and how it went. -/
structure Turn (σ : Type) where
  request : Request
  before : σ
  run : Run σ

/-- What the request would send to the store as it was before it. -/
def Turn.query (e : Engine) (t : Turn σ) : Attempt EngineError String :=
  e.query t.request.operation (Store.trailer t.before) t.request.schema

/-- The turns of a session. -/
def session (e : Engine) (store : σ) : List Request → List (Turn σ)
  | [] => []
  | r :: rest =>
    let run := e.run r.operation store r.schema
    ⟨r, store, run⟩ :: session e run.store rest

/-- The store after a session. -/
def after (e : Engine) (store : σ) (requests : List Request) : σ :=
  requests.foldl (fun store r => (e.run r.operation store r.schema).store) store

/-- The statements that the requests of a session would send, each of them at its moment. -/
def queries (e : Engine) (turns : List (Turn σ)) : List String :=
  turns.filterMap fun t => (t.query e).toOption

/-- A statement is about the table that the schema names. -/
theorem tableName_of_statement {e : Engine} {operation : Operation} {trailer : String}
    {s : Schema} {statement : Statement}
    (made : e.statement operation trailer s = .ok statement) :
    s.tableName = .ok statement.tableName := by
  cases operation with
  | create =>
    obtain ⟨-, -, made⟩ := Result.bind_eq_ok_iff.mp made
    obtain ⟨clauses, -, made⟩ := Result.bind_eq_ok_iff.mp made
    obtain ⟨tableName, named, made⟩ := Result.bind_eq_ok_iff.mp made
    cases made
    exact Result.ofFault_eq_ok_iff.mp named
  | drop =>
    obtain ⟨-, -, made⟩ := Result.bind_eq_ok_iff.mp made
    obtain ⟨tableName, named, made⟩ := Result.bind_eq_ok_iff.mp made
    cases made
    exact Result.ofFault_eq_ok_iff.mp named

/-- A request without a statement ends by the same failure, and the store is left as it is. -/
theorem run_of_query_error {e : Engine} {operation : Operation} {store : σ} {s : Schema}
    {failure : Failure EngineError}
    (asked : e.query operation (Store.trailer store) s = .error failure) :
    e.run operation store s =
      ⟨store, queryLog (.error failure : Attempt EngineError Unit), .error failure⟩ := by
  cases made : e.statement operation (Store.trailer store) s with
  | error f =>
    simp only [query, made] at asked
    cases asked
    simp [run, made]
  | ok statement =>
    simp only [query, made] at asked
    cases asked

/-- A request with a statement hands it to the store, and ends as the store's answer says. -/
theorem run_of_query_ok {e : Engine} {operation : Operation} {store : σ} {s : Schema}
    {sql : String} (asked : e.query operation (Store.trailer store) s = .ok sql) :
    ∃ tableName, s.tableName = .ok tableName ∧
      e.run operation store s =
        { store := (Store.execute store sql).1
          log := announcement operation tableName ::
            (settle operation tableName (Store.execute store sql).2).1
          outcome := (settle operation tableName (Store.execute store sql).2).2 } := by
  cases made : e.statement operation (Store.trailer store) s with
  | error f =>
    simp only [query, made] at asked
    cases asked
  | ok statement =>
    simp only [query, made] at asked
    cases asked
    exact ⟨statement.tableName, tableName_of_statement made, by simp [run, made]⟩

/-- After a request the store is what it makes of the statement that was sent, if one was. -/
theorem store_run (e : Engine) (operation : Operation) (store : σ) (s : Schema) :
    (e.run operation store s).store =
      Store.feed store (e.query operation (Store.trailer store) s).toOption.toList := by
  cases asked : e.query operation (Store.trailer store) s with
  | error failure => rw [run_of_query_error asked]; rfl
  | ok sql =>
    obtain ⟨tableName, -, ran⟩ := run_of_query_ok asked
    rw [ran]
    rfl

theorem queries_session_cons (e : Engine) (store : σ) (r : Request) (rest : List Request) :
    e.queries (e.session store (r :: rest)) =
      (e.query r.operation (Store.trailer store) r.schema).toOption.toList ++
        e.queries (e.session (e.run r.operation store r.schema).store rest) := by
  simp only [queries, session, List.filterMap_cons, Turn.query]
  cases e.query r.operation (Store.trailer store) r.schema <;> rfl

/-- After a session the store is what it makes of the statements that were sent. -/
theorem after_eq_feed (e : Engine) (store : σ) (requests : List Request) :
    e.after store requests = Store.feed store (e.queries (e.session store requests)) := by
  induction requests generalizing store with
  | nil => rfl
  | cons r rest ih =>
    rw [queries_session_cons, Store.feed_append, ← store_run]
    exact ih _

theorem session_append (e : Engine) (store : σ) (first later : List Request) :
    e.session store (first ++ later) =
      e.session store first ++ e.session (e.after store first) later := by
  induction first generalizing store with
  | nil => rfl
  | cons r rest ih =>
    rw [List.cons_append, session, session, ih]
    rfl

/-- The statements that a store was given are those that it kept, behind the ones it had. -/
theorem received_feed (w : Witnessed σ) (statements : List String) :
    (Store.feed w statements).received = w.received ++ statements := by
  induction statements generalizing w with
  | nil => simp [Store.feed]
  | cons sql rest ih =>
    have kept := ih (Store.execute w sql).1
    rw [← List.singleton_append, Store.feed_append]
    simpa [Store.execute, Store.feed] using kept

/-- What can be seen of a turn without looking at the store: the request, what it would send, its
log and its outcome. -/
def Turn.seen (e : Engine) (t : Turn σ) :
    Request × Attempt EngineError String × List LogLine × Attempt EngineError Unit :=
  (t.request, t.query e, t.run.log, t.run.outcome)

/-- Over stores that answer alike, sessions of the same requests look the same. -/
theorem seen_session_of_answersAlike (e : Engine) {a : σ} {b : τ}
    (alike : Store.AnswersAlike a b) (requests : List Request) :
    (e.session a requests).map (Turn.seen e) = (e.session b requests).map (Turn.seen e) := by
  induction requests generalizing a b with
  | nil => rfl
  | cons r rest ih =>
    have trailers : Store.trailer a = Store.trailer b := (alike []).1
    simp only [session, List.map_cons, List.cons.injEq]
    cases asked : e.query r.operation (Store.trailer a) r.schema with
    | error failure =>
      have asked' := trailers ▸ asked
      rw [run_of_query_error asked, run_of_query_error asked']
      exact ⟨by simp [Turn.seen, Turn.query, trailers], ih alike⟩
    | ok sql =>
      have asked' := trailers ▸ asked
      obtain ⟨tableName, named, ran⟩ := run_of_query_ok asked
      obtain ⟨tableName', named', ran'⟩ := run_of_query_ok asked'
      rw [named'] at named
      cases named
      have answers : (Store.execute a sql).2 = (Store.execute b sql).2 := (alike []).2 sql
      rw [ran, ran']
      exact ⟨by simp [Turn.seen, Turn.query, trailers, answers], ih (alike.next sql)⟩

/-- The request of a turn is answered faithfully: if it has no statement, it ends by that failure
and the store is left as it is; if it has one, the store is given this statement once, and the
request ends as the answer says. -/
def Turn.Faithful (e : Engine) (t : Turn σ) : Prop :=
  match t.query e with
  | .error failure => t.run.store = t.before ∧ t.run.outcome = .error failure
  | .ok sql =>
    t.run.store = (Store.execute t.before sql).1 ∧
      ∃ tableName, t.request.schema.tableName = .ok tableName ∧
        t.run.outcome =
          (settle t.request.operation tableName (Store.execute t.before sql).2).2

theorem faithful_run (e : Engine) (r : Request) (store : σ) :
    Turn.Faithful e ⟨r, store, e.run r.operation store r.schema⟩ := by
  unfold Turn.Faithful Turn.query
  cases asked : e.query r.operation (Store.trailer store) r.schema with
  | error failure =>
    rw [run_of_query_error asked]
    exact ⟨rfl, rfl⟩
  | ok sql =>
    obtain ⟨tableName, named, ran⟩ := run_of_query_ok asked
    rw [ran]
    exact ⟨rfl, tableName, named, rfl⟩

theorem faithful_of_mem_session {e : Engine} {store : σ} {requests : List Request} {t : Turn σ}
    (member : t ∈ e.session store requests) : t.Faithful e := by
  induction requests generalizing store with
  | nil => cases member
  | cons r rest ih =>
    rcases List.mem_cons.mp member with rfl | later
    · exact faithful_run e r store
    · exact ih later

theorem map_request_session (e : Engine) (store : σ) (requests : List Request) :
    (e.session store requests).map (·.request) = requests := by
  induction requests generalizing store with
  | nil => rfl
  | cons r rest ih => exact congrArg (r :: ·) (ih _)

/-- What is sent can be seen without looking at the store. -/
theorem queries_eq_filterMap_seen (e : Engine) (turns : List (Turn σ)) :
    e.queries turns = (turns.map (Turn.seen e)).filterMap (·.2.1.toOption) := by
  rw [queries, List.filterMap_map]
  rfl

/-- A store that keeps a list is given exactly the statements that could have been asked for. -/
theorem received_after (e : Engine) (store : σ) (requests : List Request) :
    (e.after ({ store } : Witnessed σ) requests).received =
      e.queries (e.session store requests) := by
  have alike := Store.answersAlike_witnessed store []
  rw [after_eq_feed, received_feed, List.nil_append, queries_eq_filterMap_seen,
    queries_eq_filterMap_seen, seen_session_of_answersAlike e alike requests]

/-- Over a session, the store receives exactly the statements that could have been asked for at
each request, in the order of the requests. Every request is answered faithfully. What went before
a request matters to it only by what the store made of the statements that it received: over any
other store that answers alike from there on, the rest of the session looks the same. -/
theorem session_sends_queries (e : Engine) (store : σ) (requests : List Request) :
    (e.after ({ store } : Witnessed σ) requests).received =
        e.queries (e.session store requests) ∧
      (e.session store requests).map (·.request) = requests ∧
      (∀ t ∈ e.session store requests, t.Faithful e) ∧
      ∀ first later, requests = first ++ later →
        let reached := Store.feed store (e.queries (e.session store first))
        e.session store requests = e.session store first ++ e.session reached later ∧
          ∀ (τ : Type) [Store τ] (other : τ), Store.AnswersAlike reached other →
            (e.session reached later).map (Turn.seen e) =
              (e.session other later).map (Turn.seen e) := by
  refine ⟨received_after e store requests, map_request_session e store requests,
    fun t member => faithful_of_mem_session member, ?_⟩
  rintro first later rfl
  refine ⟨?_, fun τ _ other alike => seen_session_of_answersAlike e alike later⟩
  rw [session_append, after_eq_feed]

end Engine

end TableDdl
