import TableDdl.Engine.Store

/-!
# Connections

A connection to a database is used by four calls: open a cursor, execute a statement on it,
close it, and commit. Each call may raise an exception. A store over a connection executes a
statement by these calls and keeps a log of them.
-/

namespace TableDdl

/-- A call to a connection. -/
inductive Call where
  | cursor
  | execute (sql : String)
  | close
  | commit
  deriving DecidableEq, Repr

/-- The call as a line of a log. -/
def Call.text : Call → String
  | .cursor => "cursor"
  | .execute sql => "execute " ++ sql
  | .close => "close"
  | .commit => "commit"

/-- A type of states of a connection. -/
class Connection (γ : Type) where
  /-- The state after a call, and the exception that the call raises, if any. -/
  call : γ → Call → γ × Option Raised
  /-- The texts that the cursor reports after a statement was executed, if it keeps a list of
  them. -/
  messages : γ → Option (List String)

/-- A store over a connection. -/
structure ConnectionStore (γ : Type) where
  connection : γ
  trailer : String
  log : List Call := []

namespace ConnectionStore

variable {γ : Type} [Connection γ]

/-- A store over a connection that creates tables with a collation, if one is given. -/
def of (connection : γ) (collation : Option String) : ConnectionStore γ :=
  { connection, trailer := collationTrailer (collation.getD "") }

/-- Make a call and log it. -/
def call (store : ConnectionStore γ) (c : Call) : ConnectionStore γ × Option Raised :=
  let (connection, raised) := Connection.call store.connection c
  ({ store with connection, log := store.log ++ [c] }, raised)

/-- The answer that stands for what the cursor reported. -/
def answer (messages : List String) : StoreResult :=
  if messages.isEmpty then {} else { diagnosticOutput := "\n".intercalate messages }

/-- Execute a statement: the cursor is closed whether or not the statement succeeds, an
exception on closing replaces an earlier one, and only a clean run is committed. -/
def execute (store : ConnectionStore γ) (sql : String) :
    ConnectionStore γ × Except Raised StoreResult :=
  match store.call .cursor with
  | (store, some raised) => (store, .error raised)
  | (store, none) =>
    let (store, failure) := store.call (.execute sql)
    let messages := (Connection.messages store.connection).getD []
    match store.call .close with
    | (store, some raised) => (store, .error raised)
    | (store, none) =>
      match failure with
      | some raised => (store, .error raised)
      | none =>
        match store.call .commit with
        | (store, some raised) => (store, .error raised)
        | (store, none) => (store, .ok (answer messages))

end ConnectionStore

instance {γ : Type} [Connection γ] : Store (ConnectionStore γ) where
  trailer store := store.trailer
  execute := ConnectionStore.execute

end TableDdl
