import TableDdl.Cli.Help
import TableDdl.Cli.Stdout
import TableDdl.Engine.Basic
import TableDdl.Loading.Files
import TableDdl.Settings.Basic

/-!
# Running a command line

A command line has an outcome: what it prints on the two channels, and how it ends. Statements
are printed only if every one of them could be made, whereas a validation prints as it goes. The
stream for output may refuse what is printed, which is a fault; that for errors refuses nothing,
since it shows what it has no encoding for by escapes.
-/

namespace TableDdl.Cli

/-- The outcome of a command line: how it ends, and what it prints. -/
structure Outcome where
  status : Except Fault Nat
  output : String := ""
  errors : String := ""
  deriving Repr

namespace Outcome

/-- End with a status. -/
def ended (status : Nat) (output errors : String) : Outcome :=
  ⟨.ok status, output, errors⟩

/-- End by a fault. -/
def faulted (f : Fault) (output errors : String) : Outcome :=
  ⟨.error f, output, errors⟩

end Outcome

/-- Print texts behind the output so far and go on, unless the stream refuses one of them. -/
def Stdout.print (out : Stdout) (texts : List String) (output errors : String)
    (next : String → Outcome) : Outcome :=
  match out.write texts with
  | (written, none) => next (output ++ written)
  | (written, some f) => .faulted f (output ++ written) errors

/-- A complaint on a line of its own. -/
def complaint (kind message : String) : String :=
  kind ++ ": " ++ message ++ "\n"

/-- The lines about one schema. -/
def verdict (s : Schema) (issues : List Issue) : Except Fault (List String) := do
  let tableName ← s.tableName
  let status := if issues.isEmpty then "ok" else toString issues.length ++ " errors"
  return ("  - " ++ tableName ++ " (" ++ toString s.columnList.length ++ " columns): " ++ status ++
    "\n") :: issues.map fun issue => "      " ++ issue.message ++ "\n"

/-- Validate schemas one after the other; `output` is what was printed so far, and `failed`
whether one of them had issues. -/
def validateAll (out : Stdout) (output : String) (failed : Bool) : List Schema → Outcome
  | [] => .ended (if failed then 1 else 0) output ""
  | s :: rest =>
    match s.issues with
    | .error f => .faulted f output ""
    | .ok issues =>
      match verdict s issues with
      | .error f => .faulted f output ""
      | .ok lines =>
        out.print lines output "" fun output =>
          validateAll out output (failed || !issues.isEmpty) rest

/-- Validate what stands at a path. -/
def validate (out : Stdout) (files : Files) (path : Path) (settings : Settings) : Outcome :=
  match Loading.load files path settings.tablePrefix with
  | .error (.refused e) => .ended 1 "" (complaint "Validation error" e.message)
  | .error (.fault f) => .faulted f "" ""
  | .ok schemas =>
    out.print ["Validated " ++ toString schemas.length ++ " tables:\n"] "" "" fun output =>
      validateAll out output false schemas

/-- A statement as it is printed: with a semicolon at its end, and an empty line behind it. -/
def printed (sql : String) : String :=
  (if ";".toList.isSuffixOf sql.toList then sql else sql ++ ";") ++ "\n\n"

/-- The lines of a log. -/
def logText (log : List LogLine) : String :=
  String.join (log.map fun line => line.text ++ "\n")

/-- Make the statements for schemas one after the other; `errors` is what was logged so far. -/
def renderAll (out : Stdout) (operation : Operation) (store : RecordingStore) (errors : String) :
    List Schema → Outcome
  | [] =>
    out.print (store.statements.map printed) "" errors fun output => .ended 0 output errors
  | s :: rest =>
    let run := Engine.standard.run operation store s
    let errors := errors ++ logText run.log
    match run.outcome with
    | .ok () => renderAll out operation run.store errors rest
    | .error (.fault f) => .faulted f "" errors
    | .error (.refused (.invalid tableName issues)) =>
      let e := EngineError.invalid tableName issues
      .ended 1 "" (errors ++ complaint "Validation error" e.message)
    | .error (.refused e) => .ended 1 "" (errors ++ complaint "Error" e.message)

/-- Print the statements for what stands at a path. -/
def render (out : Stdout) (operation : Operation) (files : Files) (path : Path)
    (settings : Settings) : Outcome :=
  match Loading.load files path settings.tablePrefix with
  | .error (.refused e) => .ended 1 "" (complaint "Error" e.message)
  | .error (.fault f) => .faulted f "" ""
  | .ok schemas =>
    renderAll out operation { trailer := collationTrailer (settings.collation.getD "") } "" schemas

/-- Perform a command on what stands at a path. -/
def perform (c : Command) (out : Stdout) (files : Files) (path : Path) (settings : Settings) :
    Outcome :=
  match c with
  | .validate => validate out files path settings
  | .create => render out .create files path settings
  | .drop => render out .drop files path settings

/-- What an invocation asks of the settings. -/
def Invocation.overrides (i : Invocation) : Overrides :=
  { tablePrefix := i.tablePrefix, collation := i.collation, file := i.config }

/-- Where the descriptions are. -/
def Invocation.descriptions (i : Invocation) (settings : Settings) : Path :=
  i.schemaPath.getD (Path.ofText settings.schemaPath)

/-- Run a command. -/
def Invocation.run (i : Invocation) (out : Stdout) (files : Files) (env : Environment) : Outcome :=
  match Settings.load files env i.overrides with
  | .error (.refused e) => .ended 2 "" (complaint "Configuration error" e.message)
  | .error (.fault f) => .faulted f "" ""
  | .ok settings => perform i.command out files (i.descriptions settings) settings

/-- Run a command line. -/
def run (out : Stdout) (files : Files) (env : Environment) (arguments : List String) : Outcome :=
  match readArguments arguments with
  | .help reader => out.print [help reader] "" "" fun output => .ended 0 output ""
  | .refused reader e => .ended 2 "" (usageComplaint reader e)
  | .run i => i.run out files env

end TableDdl.Cli
