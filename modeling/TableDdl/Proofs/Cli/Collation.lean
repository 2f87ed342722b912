import TableDdl.Files.Tree
import TableDdl.Proofs.Cli.Statements

/-!
# What a collation reaches

Of two runs over the same files that differ in the collation only, the first tells what the second
gives. The stores differ in nothing but what stands behind the statements that create tables, and
for every schema what is logged and how the operation ends is the same on both sides. So the
collation comes behind each of these statements once, and nowhere else. A stream that takes the
collation takes a statement with it exactly if it takes the statement.
-/

namespace TableDdl

namespace Engine

/-- A statement for an operation on a table, with what a store puts behind it. -/
def trailed (operation : Operation) (trailer sql : String) : String :=
  match operation with
  | .create => if trailer = "" then sql else sql ++ " " ++ trailer
  | .drop => sql

theorem trailed_collation {name : String} (given : name ≠ "") (sql : String) :
    trailed .create (collationTrailer name) sql = sql ++ " COLLATE " ++ name := by
  have ends : collationTrailer name = "COLLATE " ++ name := if_neg given
  have something : "COLLATE " ++ name ≠ "" := by simp
  have blank : " " ++ ("COLLATE " ++ name) = " COLLATE " ++ name := by
    rw [← String.append_assoc]
    rfl
  rw [ends, trailed, if_neg something, String.append_assoc, blank, String.append_assoc]

theorem statement_eq_trailed (e : Engine) (operation : Operation) (trailer : String) (s : Schema) :
    e.statement operation trailer s =
      ((fun made => ⟨made.tableName, trailed operation trailer made.sql⟩) <$>
        e.statement operation "" s) := by
  cases operation with
  | create =>
    simp only [statement, createStatement]
    cases e.check s with
    | error failure => rfl
    | ok checked =>
      cases e.clauses s with
      | error f => rfl
      | ok clauses =>
        cases s.tableName with
        | error f => rfl
        | ok name => rfl
  | drop =>
    cases dropped : e.statement .drop "" s with
    | error failure => exact dropped
    | ok made => exact dropped

theorem query_eq_trailed (e : Engine) (operation : Operation) (trailer : String) (s : Schema) :
    e.query operation trailer s = trailed operation trailer <$> e.query operation "" s := by
  rw [query, query, statement_eq_trailed]
  cases e.statement operation "" s <;> rfl

theorem mapM_query_eq_trailed (e : Engine) (operation : Operation) (trailer : String)
    (schemas : List Schema) :
    schemas.mapM (e.query operation trailer) =
      List.map (trailed operation trailer) <$> schemas.mapM (e.query operation "") := by
  rw [funext (query_eq_trailed e operation trailer)]
  exact Result.mapM_map _ _ schemas

/-- What stands behind the statements makes no difference to what is logged and to how an operation
ends. -/
theorem run_trailer (e : Engine) (operation : Operation) (trailer : String) (s : Schema) :
    (e.run operation ({ trailer } : RecordingStore) s).log =
        (e.run operation ({} : RecordingStore) s).log ∧
      (e.run operation ({ trailer } : RecordingStore) s).outcome =
        (e.run operation ({} : RecordingStore) s).outcome := by
  have behind : Store.trailer ({ trailer } : RecordingStore) = trailer := rfl
  have bare : Store.trailer ({} : RecordingStore) = "" := rfl
  simp only [Engine.run, behind, bare]
  rw [statement_eq_trailed]
  cases e.statement operation "" s <;> exact ⟨rfl, rfl⟩

end Engine

namespace Cli

variable {out : Stdout} {operation : Operation} {trailer : String} {files : Files} {path : Path}
  {settings : Settings}

/-- Two runs end alike and leave the same errors. -/
def EndAlike (o o' : Outcome) : Prop :=
  o'.status = o.status ∧ o'.errors = o.errors

section Behind

variable {behind : String → String}

/-- What is put behind a text makes no difference to the stream, which takes it. -/
def Stdout.IsTaken (out : Stdout) (behind : String → String) : Prop :=
  ∀ sql, ∃ tail, behind sql = sql ++ tail ∧ out.takes tail = true

theorem isTaken_drop : out.IsTaken (Engine.trailed .drop trailer) :=
  fun _ => ⟨"", String.append_empty.symm, Stdout.takes_of_ascii (by decide)⟩

theorem isTaken_create {name : String} (taken : out.takes name = true) :
    out.IsTaken (Engine.trailed .create (collationTrailer name)) := by
  have word : out.takes " COLLATE " = true := Stdout.takes_of_ascii (by decide)
  intro sql
  by_cases none : name = ""
  · refine ⟨"", ?_, Stdout.takes_of_ascii (by decide)⟩
    rw [none, String.append_empty]
    rfl
  · refine ⟨" COLLATE " ++ name, ?_, by simp [word, taken]⟩
    rw [Engine.trailed_collation none, String.append_assoc]

theorem Stdout.IsTaken.takes (taken : out.IsTaken behind) (sql : String) :
    out.takes (behind sql) = out.takes sql := by
  obtain ⟨tail, same, fine⟩ := taken sql
  simp [same, fine]

theorem Stdout.IsTaken.refusal? (taken : out.IsTaken behind) {sql : String}
    (untaken : out.takes sql = false) : out.refusal? (behind sql) = out.refusal? sql := by
  obtain ⟨tail, same, fine⟩ := taken sql
  rw [same, Stdout.refusal?_append untaken fine]

/-- Two runs print the statements for the schemas at a path, the second with something behind each
of them, up to the first that the stream refuses; or they stop in the same way and print nothing. -/
inductive PrintsBehind (out : Stdout) (operation : Operation) (files : Files) (path : Path)
    (tablePrefix : Option String) (behind : String → String) : Outcome → Outcome → Prop
  | printed {schemas : List Schema} {sqls : List String} (errors : String)
    (loaded : Loading.load files path tablePrefix = .ok schemas)
    (made : schemas.mapM (Engine.standard.query operation "") = .ok sqls)
    (taken : ∀ sql ∈ sqls, out.takes sql = true) :
    PrintsBehind out operation files path tablePrefix behind
      (.ended 0 (String.join (sqls.map fun sql =>
        (if ";".toList.isSuffixOf sql.toList then sql else sql ++ ";") ++ "\n\n")) errors)
      (.ended 0 (String.join ((sqls.map behind).map fun sql =>
        (if ";".toList.isSuffixOf sql.toList then sql else sql ++ ";") ++ "\n\n")) errors)
  | refused {schemas : List Schema} {before after : List String} {sql : String} {f : Fault}
    (errors : String) (loaded : Loading.load files path tablePrefix = .ok schemas)
    (made : schemas.mapM (Engine.standard.query operation "") = .ok (before ++ sql :: after))
    (taken : ∀ t ∈ before, out.takes t = true) (refused : out.refusal? sql = some f) :
    PrintsBehind out operation files path tablePrefix behind
      (.faulted f (String.join (before.map fun sql =>
        (if ";".toList.isSuffixOf sql.toList then sql else sql ++ ";") ++ "\n\n")) errors)
      (.faulted f (String.join ((before.map behind).map fun sql =>
        (if ";".toList.isSuffixOf sql.toList then sql else sql ++ ";") ++ "\n\n")) errors)
  | stopped (o : Outcome) (failed : o.status ≠ .ok 0) (silent : o.output = "") :
    PrintsBehind out operation files path tablePrefix behind o o

/-- The stream stops at the same statement whether or not something that it takes is behind the
statements. -/
theorem printsBehind_printedAll {schemas : List Schema} {sqls : List String} {errors : String}
    (loaded : Loading.load files path settings.tablePrefix = .ok schemas)
    (made : schemas.mapM (Engine.standard.query operation "") = .ok sqls)
    (taken : out.IsTaken behind) :
    PrintsBehind out operation files path settings.tablePrefix behind
      (printedAll out [] errors (.ok sqls)) (printedAll out [] errors (.ok (sqls.map behind))) := by
  rcases out.takes_all_or_first sqls with all | ⟨before, sql, after, rfl, all, untaken⟩
  · rw [printedAll_of_takes all, printedAll_of_takes (by simpa [taken.takes] using all)]
    exact .printed errors loaded made all
  · have all' : ∀ t ∈ before.map behind, out.takes t = true := by simpa [taken.takes] using all
    have untaken' : out.takes (behind sql) = false := (taken.takes sql).trans untaken
    obtain ⟨f, refused, ended⟩ := printedAll_of_refused all untaken
    obtain ⟨f', refused', ended'⟩ := printedAll_of_refused all' untaken'
    rw [taken.refusal? untaken, refused] at refused'
    cases refused'
    rw [List.map_append, List.map_cons, ended, ended']
    exact .refused errors loaded made all refused

end Behind

theorem renderLog_trailer (operation : Operation) (trailer : String) (schemas : List Schema) :
    renderLog operation trailer schemas = renderLog operation "" schemas := by
  induction schemas with
  | nil => rfl
  | cons s rest ih =>
    obtain ⟨log, outcome⟩ := Engine.standard.run_trailer operation trailer s
    rw [renderLog, renderLog, log, outcome, ih]

theorem render_collation_of_load_ok {schemas : List Schema}
    (loaded : Loading.load files path settings.tablePrefix = .ok schemas) (c : Option String) :
    render out operation files path { settings with collation := c } =
      printedAll out [] (logText (renderLog operation "" schemas))
        (List.map (Engine.trailed operation (collationTrailer (c.getD ""))) <$>
          schemas.mapM (Engine.standard.query operation "")) := by
  have ended : render out operation files path { settings with collation := c } = _ :=
    render_of_load_ok operation loaded
  rw [ended, renderLog_trailer, Engine.mapM_query_eq_trailed]
  rfl

theorem render_printsBehind (operation : Operation) (files : Files) (path : Path)
    (settings : Settings) (c : Option String)
    (taken : out.IsTaken (Engine.trailed operation (collationTrailer (c.getD "")))) :
    PrintsBehind out operation files path settings.tablePrefix
      (Engine.trailed operation (collationTrailer (c.getD "")))
      (render out operation files path { settings with collation := none })
      (render out operation files path { settings with collation := c }) := by
  cases loaded : Loading.load files path settings.tablePrefix with
  | error failure =>
    have same (c : Option String) :
        render out operation files path { settings with collation := c } = unloaded failure :=
      render_of_load_error operation loaded
    rw [same none, same c]
    exact .stopped _ (status_unloaded_ne_zero failure) (output_unloaded failure)
  | ok schemas =>
    have plain : render out operation files path { settings with collation := none } =
        printedAll out [] (logText (renderLog operation "" schemas))
          (schemas.mapM (Engine.standard.query operation "")) :=
      render_of_load_ok operation loaded
    rw [plain, render_collation_of_load_ok loaded c]
    cases made : schemas.mapM (Engine.standard.query operation "") with
    | ok sqls => exact printsBehind_printedAll loaded made taken
    | error failure =>
      exact .stopped _ (by simp [printedAll, status_stopped_eq_ok_iff]) (output_stopped _ _)

namespace PrintsBehind

variable {tablePrefix : Option String} {behind : String → String} {o o' : Outcome}

theorem endAlike (same : PrintsBehind out operation files path tablePrefix behind o o') :
    EndAlike o o' := by
  cases same <;> exact ⟨rfl, rfl⟩

/-- Nothing differs if nothing is put behind the statements. -/
theorem eq_of_forall (same : PrintsBehind out operation files path tablePrefix behind o o')
    (nothing : ∀ sql, behind sql = sql) : o' = o := by
  have same' : behind = id := funext nothing
  cases same with
  | printed | refused => rw [same', List.map_id]
  | stopped o failed silent => rfl

end PrintsBehind

/-- A collation that the stream does not take is refused with the first statement. -/
theorem render_of_untaken {schemas : List Schema} {name sql : String} {after : List String}
    (loaded : Loading.load files path settings.tablePrefix = .ok schemas)
    (made : schemas.mapM (Engine.standard.query .create "") = .ok (sql :: after))
    (untaken : out.takes name = false) :
    (render out .create files path { settings with collation := some name }).output = "" ∧
      ∃ f, out.refusal? (sql ++ " COLLATE " ++ name) = some f ∧
        (render out .create files path { settings with collation := some name }).status =
          .error f := by
  have given : name ≠ "" := by
    rintro rfl
    cases untaken
  have beyond : out.takes (sql ++ " COLLATE " ++ name) = false := by
    rw [Stdout.takes_append, untaken, Bool.and_false]
  obtain ⟨f, refused, ended⟩ : ∃ f, out.refusal? (sql ++ " COLLATE " ++ name) = some f ∧
      printedAll out [] (logText (renderLog .create "" schemas))
          (.ok ((sql ++ " COLLATE " ++ name) ::
            after.map (Engine.trailed .create (collationTrailer name)))) =
        .faulted f "" (logText (renderLog .create "" schemas)) :=
    printedAll_of_refused (List.forall_mem_nil _) beyond
  have same : render out .create files path { settings with collation := some name } =
      .faulted f "" (logText (renderLog .create "" schemas)) := by
    rw [render_collation_of_load_ok loaded, made, ← ended, ← Engine.trailed_collation given]
    rfl
  rw [same]
  exact ⟨rfl, f, refused, rfl⟩

/-- The directory with a file of one table. -/
def plainTable : Files :=
  FileTree.lookup
    { files := [(["t.yaml"],
      "table: a\ncolumns:\n- {name: x, type: int}\n".toUTF8.toList)] }

end Cli

end TableDdl
