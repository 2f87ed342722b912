import TableDdl.Engine.Connection
import TableDdl.Proofs.Engine.Session

/-!
# The calls of a session to a connection

What a store over a connection does can be read off the calls that it makes, each of them with the
exception that it raised, if any. For every statement it makes one segment of calls. Over a whole
session the log is made up of these segments, and every cursor that is opened is closed once before
the next one is asked for.
-/

namespace TableDdl

/-- A call that was made, and the exception that it raised, if any. -/
structure Event where
  call : Call
  raised : Option Raised
  deriving DecidableEq

namespace Connection

variable {γ : Type} [Connection γ]

/-- The connection after calls, made one after the other. -/
def afterCalls (connection : γ) (calls : List Call) : γ :=
  calls.foldl (fun connection c => (Connection.call connection c).1) connection

/-- How calls go that are made one after the other. -/
def events (connection : γ) : List Call → List Event
  | [] => []
  | c :: rest =>
    ⟨c, (Connection.call connection c).2⟩ :: events (Connection.call connection c).1 rest

theorem afterCalls_append (connection : γ) (first later : List Call) :
    afterCalls connection (first ++ later) = afterCalls (afterCalls connection first) later :=
  List.foldl_append

theorem map_call_events (connection : γ) (calls : List Call) :
    (events connection calls).map (·.call) = calls := by
  induction calls generalizing connection with
  | nil => rfl
  | cons c rest ih => exact congrArg (c :: ·) (ih _)

theorem events_append (connection : γ) (first later : List Call) :
    events connection (first ++ later) =
      events connection first ++ events (afterCalls connection first) later := by
  induction first generalizing connection with
  | nil => rfl
  | cons c rest ih => exact congrArg (_ :: ·) (ih _)

end Connection

/-- The exception that leaves a run of calls: a later one takes the place of an earlier one. -/
def leaving (events : List Event) : Option Raised :=
  (events.filterMap (·.raised)).getLast?

/-- The calls for a statement: a cursor that is refused; or a cursor, the statement and the closing
of the cursor, followed by a commit exactly if none of the three raised an exception. -/
inductive Segment (sql : String) : List Event → Prop where
  | refused (raised : Raised) : Segment sql [⟨.cursor, some raised⟩]
  | failed (executed closed : Option Raised) (failure : executed ≠ none ∨ closed ≠ none) :
    Segment sql [⟨.cursor, none⟩, ⟨.execute sql, executed⟩, ⟨.close, closed⟩]
  | finished (committed : Option Raised) :
    Segment sql [⟨.cursor, none⟩, ⟨.execute sql, none⟩, ⟨.close, none⟩, ⟨.commit, committed⟩]

namespace Segment

variable {sql : String} {events : List Event}

/-- The calls of a segment are those of one of three lists. -/
theorem calls_eq (segment : Segment sql events) :
    events.map (·.call) = [.cursor] ∨
      events.map (·.call) = [.cursor, .execute sql, .close] ∨
        events.map (·.call) = [.cursor, .execute sql, .close, .commit] := by
  cases segment with
  | refused _ => exact .inl rfl
  | failed _ _ _ => exact .inr (.inl rfl)
  | finished _ => exact .inr (.inr rfl)

/-- There is a commit exactly if the cursor was opened, the statement went through and the cursor
was closed without an exception. -/
theorem commit_iff (segment : Segment sql events) :
    (∃ raised, ⟨.commit, raised⟩ ∈ events) ↔
      ⟨.cursor, none⟩ ∈ events ∧ ⟨.execute sql, none⟩ ∈ events ∧ ⟨.close, none⟩ ∈ events := by
  cases segment with
  | refused raised => simp
  | failed executed closed failure =>
    have clean : ¬(executed = none ∧ closed = none) := by
      rintro ⟨rfl, rfl⟩
      simp at failure
    simpa [eq_comm] using clean
  | finished committed => simp

/-- A segment that no exception leaves ends with a commit that raised none. -/
theorem ends_committed (segment : Segment sql events) (clean : leaving events = none) :
    ∃ before, events = before ++ [⟨.commit, none⟩] := by
  cases segment with
  | refused raised => simp [leaving] at clean
  | failed executed closed failure =>
    cases executed <;> cases closed <;> simp [leaving] at clean failure
  | finished committed =>
    cases committed with
    | none => exact ⟨[⟨.cursor, none⟩, ⟨.execute sql, none⟩, ⟨.close, none⟩], rfl⟩
    | some raised => simp [leaving] at clean

end Segment

/-- A call that goes through lets the earlier exception pass, and any other call replaces it. -/
theorem leaving_concat (events : List Event) (last : Event) :
    leaving (events ++ [last]) = last.raised.or (leaving events) := by
  cases raised : last.raised <;> simp [leaving, raised]

/-- If a call raised an exception, one leaves the run. -/
theorem exists_leaving {events : List Event} {event : Event} (member : event ∈ events)
    (failed : event.raised ≠ none) : ∃ raised, leaving events = some raised := by
  obtain ⟨raised, own⟩ := Option.ne_none_iff_exists'.mp failed
  have listed : raised ∈ events.filterMap (·.raised) := List.mem_filterMap.mpr ⟨event, member, own⟩
  exact ⟨_, List.getLast?_eq_some_getLast (List.ne_nil_of_mem listed)⟩

/-- A result is the one that an exception makes it, if there is an exception. -/
def AnswersBy {α : Type} (answer : Except Raised α) : Option Raised → Prop
  | some raised => answer = .error raised
  | none => ∃ result, answer = .ok result

namespace ConnectionStore

variable {γ : Type} [Connection γ]

/-- The store after calls. -/
def made (store : ConnectionStore γ) (calls : List Call) : ConnectionStore γ :=
  { store with
    connection := Connection.afterCalls store.connection calls
    log := store.log ++ calls }

theorem made_made (store : ConnectionStore γ) (first later : List Call) :
    (store.made first).made later = store.made (first ++ later) := by
  simp [made, Connection.afterCalls_append]

theorem call_eq (store : ConnectionStore γ) (c : Call) :
    store.call c = (store.made [c], (Connection.call store.connection c).2) := rfl

theorem events_concat (store : ConnectionStore γ) (calls : List Call) (c : Call) :
    Connection.events store.connection (calls ++ [c]) =
      Connection.events store.connection calls ++
        [⟨c, (Connection.call (store.made calls).connection c).2⟩] :=
  Connection.events_append store.connection calls [c]

section Course

variable {store : ConnectionStore γ} {sql : String} {executed closed : Option Raised}

theorem execute_of_refused (sql : String) {raised : Raised}
    (refused : (Connection.call store.connection .cursor).2 = some raised) :
    store.execute sql = (store.made [.cursor], .error raised) := by
  simp [execute, call_eq, refused]

variable (opened : (Connection.call store.connection .cursor).2 = none)
  (ran : (Connection.call (store.made [.cursor]).connection (.execute sql)).2 = executed)
  (left : (Connection.call (store.made [.cursor, .execute sql]).connection .close).2 = closed)

include opened ran left

/-- The cursor is closed after the statement in any case, and if one of the two raises an exception
there is no commit. -/
theorem execute_of_failed {raised : Raised} (failure : closed.or executed = some raised) :
    store.execute sql = (store.made [.cursor, .execute sql, .close], .error raised) := by
  cases closed with
  | some later =>
    cases failure
    cases executed <;> simp [execute, call_eq, made_made, opened, ran, left]
  | none =>
    cases executed with
    | none => cases failure
    | some earlier =>
      cases failure
      simp [execute, call_eq, made_made, opened, ran, left]

theorem execute_of_clean (clean : closed.or executed = none) :
    let committed :=
      (Connection.call (store.made [.cursor, .execute sql, .close]).connection .commit).2
    (store.execute sql).1 = store.made [.cursor, .execute sql, .close, .commit] ∧
      AnswersBy (store.execute sql).2 committed := by
  obtain ⟨rfl, rfl⟩ : closed = none ∧ executed = none := by simpa using clean
  dsimp only
  cases committed :
      (Connection.call (store.made [.cursor, .execute sql, .close]).connection .commit).2 <;>
    simp [execute, call_eq, made_made, opened, ran, left, committed, AnswersBy]

theorem events_cursor_execute_close :
    Connection.events store.connection [.cursor, .execute sql, .close] =
      [⟨.cursor, none⟩, ⟨.execute sql, executed⟩, ⟨.close, closed⟩] := by
  subst ran left
  simp [Connection.events, opened, made, Connection.afterCalls]

end Course

/-- A statement is executed by the calls of one segment. The store answers by the exception that
leaves them, if there is one. -/
theorem execute_segment (store : ConnectionStore γ) (sql : String) :
    ∃ calls, Segment sql (Connection.events store.connection calls) ∧
      (store.execute sql).1 = store.made calls ∧
      AnswersBy (store.execute sql).2 (leaving (Connection.events store.connection calls)) := by
  cases opened : (Connection.call store.connection .cursor).2 with
  | some raised =>
    have events : Connection.events store.connection [.cursor] = [⟨.cursor, some raised⟩] := by
      simp [Connection.events, opened]
    have refused := execute_of_refused sql opened
    refine ⟨[.cursor], ?_, congrArg Prod.fst refused, ?_⟩
    · exact events ▸ .refused raised
    · exact events ▸ congrArg Prod.snd refused
  | none =>
    obtain ⟨executed, ran⟩ :
        ∃ r, (Connection.call (store.made [.cursor]).connection (.execute sql)).2 = r := ⟨_, rfl⟩
    obtain ⟨closed, left⟩ :
        ∃ r, (Connection.call (store.made [.cursor, .execute sql]).connection .close).2 = r :=
      ⟨_, rfl⟩
    have events := events_cursor_execute_close opened ran left
    have left_by : leaving (Connection.events store.connection [.cursor, .execute sql, .close]) =
        closed.or executed := by
      rw [events]
      cases executed <;> cases closed <;> rfl
    cases failure : closed.or executed with
    | some raised =>
      have failed := execute_of_failed opened ran left failure
      refine ⟨[.cursor, .execute sql, .close], ?_, congrArg Prod.fst failed, ?_⟩
      · rw [events]
        apply Segment.failed
        cases executed <;> cases closed <;> simp at failure ⊢
      · rw [left_by, failure]
        exact congrArg Prod.snd failed
    | none =>
      obtain ⟨ended, answered⟩ := execute_of_clean opened ran left failure
      obtain ⟨rfl, rfl⟩ : closed = none ∧ executed = none := by simpa using failure
      have whole := store.events_concat [.cursor, .execute sql, .close] .commit
      refine ⟨[.cursor, .execute sql, .close] ++ [.commit], ?_, ended, ?_⟩
      · rw [whole, events]
        exact .finished _
      · rw [whole, leaving_concat, left_by, failure, Option.or_none]
        exact answered

end ConnectionStore

/-- How often a cursor is closed before another one is asked for. -/
def closings (events : List Event) : Nat :=
  (events.takeWhile (·.call ≠ .cursor)).countP (·.call = .close)

/-- Every cursor that is opened is closed once before another one is asked for, and one that is
refused is not closed. -/
def ClosesOnce (events : List Event) : Prop :=
  ∀ before raised after, events = before ++ ⟨.cursor, raised⟩ :: after →
    closings after = if raised = none then 1 else 0

namespace ClosesOnce

theorem nil : ClosesOnce [] := by
  intro before raised after split
  simp at split

theorem cons {event : Event} {rest : List Event} (later : ClosesOnce rest)
    (here : event.call = .cursor → closings rest = if event.raised = none then 1 else 0) :
    ClosesOnce (event :: rest) := by
  intro before raised after split
  cases before with
  | nil =>
    obtain ⟨rfl, rfl⟩ := List.cons.inj split
    exact here rfl
  | cons first before =>
    obtain ⟨-, split⟩ := List.cons.inj split
    exact later before raised after split

/-- Calls that ask for no cursor may stand anywhere. -/
theorem cons_of_ne {event : Event} {rest : List Event} (later : ClosesOnce rest)
    (other : event.call ≠ .cursor) : ClosesOnce (event :: rest) :=
  later.cons fun same => absurd same other

/-- A segment may stand in front of calls that begin by asking for a cursor. -/
theorem append_segment {sql : String} {events rest : List Event} (segment : Segment sql events)
    (later : ClosesOnce rest) (fresh : closings rest = 0) : ClosesOnce (events ++ rest) := by
  cases segment with
  | refused raised => exact later.cons fun _ => by simpa using fresh
  | failed executed closed failure =>
    apply cons (cons_of_ne (cons_of_ne later (by simp)) (by simp))
    intro _
    simpa [closings] using fresh
  | finished committed =>
    apply cons (cons_of_ne (cons_of_ne (cons_of_ne later (by simp)) (by simp)) (by simp))
    intro _
    simpa [closings] using fresh

end ClosesOnce

/-- A segment begins by asking for a cursor. -/
theorem Segment.closings_append {sql : String} {events : List Event} (segment : Segment sql events)
    (rest : List Event) : closings (events ++ rest) = 0 := by
  cases segment <;> rfl

namespace Engine

variable {γ : Type} [Connection γ] {e : Engine}

/-- The calls that a request makes: those that it adds to the log. -/
def Turn.calls (t : Turn (ConnectionStore γ)) : List Call :=
  t.run.store.log.drop t.before.log.length

/-- How the calls go that a request makes. -/
def Turn.events (t : Turn (ConnectionStore γ)) : List Event :=
  Connection.events t.before.connection t.calls

namespace Turn

variable {t : Turn (ConnectionStore γ)} {calls : List Call}

theorem calls_of_made (made : t.run.store = t.before.made calls) : t.calls = calls := by
  simp [Turn.calls, made, ConnectionStore.made]

/-- A request without a statement makes no calls. -/
theorem Faithful.calls_eq_nil {failure : Failure EngineError} (faithful : t.Faithful e)
    (asked : t.query e = .error failure) : t.calls = [] := by
  rw [Faithful, asked] at faithful
  simp [Turn.calls, faithful.1]

/-- A request with a statement makes the calls of one segment for it. -/
theorem Faithful.segment {sql : String} (faithful : t.Faithful e) (asked : t.query e = .ok sql) :
    Segment sql t.events ∧ t.run.store = t.before.made t.calls ∧
      AnswersBy (t.before.execute sql).2 (leaving t.events) := by
  rw [Faithful, asked] at faithful
  obtain ⟨calls, segment, made, answered⟩ := t.before.execute_segment sql
  have same : t.calls = calls := calls_of_made (faithful.1.trans made)
  rw [Turn.events, same]
  exact ⟨segment, faithful.1.trans made, answered⟩

theorem Faithful.store_eq_made (faithful : t.Faithful e) :
    t.run.store = t.before.made t.calls := by
  cases asked : t.query e with
  | ok sql => exact (faithful.segment asked).2.1
  | error failure =>
    rw [faithful.calls_eq_nil asked]
    rw [Faithful, asked] at faithful
    simp [faithful.1, ConnectionStore.made, Connection.afterCalls]

/-- The exception that leaves the calls of a request leaves the store, and reaches the caller as
the failure of the store. -/
theorem Faithful.outcome_of_leaving {sql : String} {raised : Raised} (faithful : t.Faithful e)
    (asked : t.query e = .ok sql) (left : leaving t.events = some raised) :
    (Store.execute t.before sql).2 = .error raised ∧
      ∃ tableName, t.request.schema.tableName = .ok tableName ∧
        t.run.outcome =
          refuse (.store t.request.operation tableName raised.text (some raised)) := by
  obtain ⟨-, -, answered⟩ := faithful.segment asked
  rw [left] at answered
  have answer : (Store.execute t.before sql).2 = .error raised := answered
  rw [Faithful, asked] at faithful
  obtain ⟨-, tableName, named, outcome⟩ := faithful
  rw [answer] at outcome
  exact ⟨answer, tableName, named, outcome⟩

/-- A request that is granted has made a commit that went through. -/
theorem Faithful.ends_committed (faithful : t.Faithful e) (granted : t.run.outcome = .ok ()) :
    ∃ before, t.events = before ++ [⟨.commit, none⟩] := by
  cases asked : t.query e with
  | error failure =>
    rw [Faithful, asked] at faithful
    cases granted.symm.trans faithful.2
  | ok sql =>
    obtain ⟨segment, -, -⟩ := faithful.segment asked
    apply segment.ends_committed
    cases left : leaving t.events with
    | none => rfl
    | some raised =>
      obtain ⟨-, tableName, -, outcome⟩ := faithful.outcome_of_leaving asked left
      cases granted.symm.trans outcome

end Turn

/-- After a session the store is what the calls of its requests make of it. -/
theorem after_eq_made (e : Engine) (store : ConnectionStore γ) (requests : List Request) :
    e.after store requests = store.made ((e.session store requests).flatMap Turn.calls) := by
  induction requests generalizing store with
  | nil => simp [after, session, ConnectionStore.made, Connection.afterCalls]
  | cons r rest ih =>
    have first := (faithful_run e r store).store_eq_made
    have later := ih (e.run r.operation store r.schema).store
    rw [session, List.flatMap_cons, ← ConnectionStore.made_made, ← first]
    exact later

theorem events_session (e : Engine) (store : ConnectionStore γ) (requests : List Request) :
    Connection.events store.connection ((e.session store requests).flatMap Turn.calls) =
      (e.session store requests).flatMap Turn.events := by
  induction requests generalizing store with
  | nil => rfl
  | cons r rest ih =>
    have first := (faithful_run e r store).store_eq_made
    have later := ih (e.run r.operation store r.schema).store
    rw [session, List.flatMap_cons, List.flatMap_cons, Connection.events_append, ← later]
    congr 2
    exact (congrArg ConnectionStore.connection first).symm

/-- Over a session every cursor that is opened is closed once before another one is asked for. The
calls begin by asking for a cursor, if there are any. -/
theorem closesOnce_session (e : Engine) (store : ConnectionStore γ) (requests : List Request) :
    ClosesOnce ((e.session store requests).flatMap Turn.events) ∧
      closings ((e.session store requests).flatMap Turn.events) = 0 := by
  induction requests generalizing store with
  | nil => exact ⟨.nil, rfl⟩
  | cons r rest ih =>
    obtain ⟨later, fresh⟩ := ih (e.run r.operation store r.schema).store
    have faithful := faithful_run e r store
    rw [session, List.flatMap_cons]
    cases asked : Turn.query e ⟨r, store, e.run r.operation store r.schema⟩ with
    | error failure =>
      rw [Turn.events, faithful.calls_eq_nil asked]
      exact ⟨later, fresh⟩
    | ok sql =>
      obtain ⟨segment, -, -⟩ := faithful.segment asked
      exact ⟨.append_segment segment later fresh, segment.closings_append _⟩

/-- A session over a connection logs one segment of calls for every request that has a statement,
in the order of the requests, and nothing for the others. Every cursor that is opened is closed once
before another one is asked for. A commit is made exactly if the cursor was opened, the statement
went through and the cursor was closed; a request that is granted has made a commit that went
through; and if a call raised an exception, the one that leaves the store reaches the caller as the
failure of the store to create or to drop the table, with its text. -/
theorem session_makes_segments (e : Engine) (store : ConnectionStore γ)
    (requests : List Request) :
    let turns := e.session store requests
    turns.map (·.request) = requests ∧
      (e.after store requests).log = store.log ++ turns.flatMap Turn.calls ∧
      Connection.events store.connection (turns.flatMap Turn.calls) =
        turns.flatMap Turn.events ∧
      (∀ before raised after,
        turns.flatMap Turn.events = before ++ ⟨.cursor, raised⟩ :: after →
          (after.takeWhile (·.call ≠ .cursor)).countP (·.call = .close) =
            if raised = none then 1 else 0) ∧
      ∀ t ∈ turns,
        (∀ failure, t.query e = .error failure → t.calls = [] ∧ t.run.outcome = .error failure) ∧
        (∀ sql, t.query e = .ok sql →
          (t.calls = [.cursor] ∨ t.calls = [.cursor, .execute sql, .close] ∨
            t.calls = [.cursor, .execute sql, .close, .commit]) ∧
          ((∃ raised, ⟨.commit, raised⟩ ∈ t.events) ↔
            ⟨.cursor, none⟩ ∈ t.events ∧ ⟨.execute sql, none⟩ ∈ t.events ∧
              ⟨.close, none⟩ ∈ t.events) ∧
          ∀ event ∈ t.events, event.raised ≠ none →
            ∃ raised tableName error,
              (Store.execute t.before sql).2 = .error raised ∧ leaving t.events = some raised ∧
              t.request.schema.tableName = .ok tableName ∧
              t.run.outcome = .error (.refused error) ∧
              error = .store t.request.operation tableName raised.text (some raised) ∧
              error.code = match t.request.operation with
                | .create => 101
                | .drop => 102) ∧
        (t.run.outcome = .ok () → ∃ before, t.events = before ++ [⟨.commit, none⟩]) := by
  intro turns
  refine ⟨map_request_session e store requests, ?_, events_session e store requests,
    (closesOnce_session e store requests).1, ?_⟩
  · rw [after_eq_made]
    rfl
  intro t member
  have faithful := faithful_of_mem_session member
  refine ⟨?_, ?_, faithful.ends_committed⟩
  · intro failure asked
    have none := faithful.calls_eq_nil asked
    rw [Turn.Faithful, asked] at faithful
    exact ⟨none, faithful.2⟩
  · intro sql asked
    obtain ⟨segment, -, -⟩ := faithful.segment asked
    have shape := segment.calls_eq
    rw [Turn.events, Connection.map_call_events] at shape
    refine ⟨shape, segment.commit_iff, ?_⟩
    intro event made failed
    obtain ⟨raised, left⟩ := exists_leaving made failed
    obtain ⟨answered, tableName, named, outcome⟩ := faithful.outcome_of_leaving asked left
    refine ⟨raised, tableName, _, answered, left, named, outcome, rfl, ?_⟩
    cases t.request.operation <;> rfl

end Engine

end TableDdl
