import TableDdl.Proofs.Cli.Malformed
import TableDdl.Proofs.Cli.Statements
import TableDdl.Proofs.Loading.FinalNames
import TableDdl.Proofs.Validation
import Mathlib.Algebra.Group.Int.Defs

/-!
# Validating and dropping agree

Validating looks at every schema and notes whether one had issues; dropping stops at the first
schema that gets no statement. The two agree on whether there is anything to complain about, as long
as the names of the tables can be written.
-/

namespace TableDdl.Cli

variable {out : Stdout} {files : Files} {path : Path} {settings : Settings} {schemas : List Schema}
  {output : String} {failed : Bool}

section Validate

variable {s : Schema} {rest : List Schema}

/-- The checks of the schema come to an end, and what is said about it is taken. -/
def Judged (out : Stdout) (s : Schema) : Prop :=
  ∃ issues lines, s.issues = .ok issues ∧ verdict s issues = .ok lines ∧
    ∀ line ∈ lines, out.takes line = true

/-- What is said about a schema without issues is taken if its name is. -/
theorem judged_iff_of_clear (clear : s.issues = .ok []) :
    Judged out s ↔ ∃ tableName, s.tableName = .ok tableName ∧ out.takes tableName = true := by
  have start : out.takes "  - " = true := Stdout.takes_of_ascii (by decide)
  have opening : out.takes " (" = true := Stdout.takes_of_ascii (by decide)
  have closing : out.takes " columns): " = true := Stdout.takes_of_ascii (by decide)
  have fine : out.takes "ok" = true := Stdout.takes_of_ascii (by decide)
  have line : out.takes "\n" = true := Stdout.takes_of_ascii (by decide)
  cases named : s.tableName with
  | error f => simp [Judged, clear, verdict, named]
  | ok tableName =>
    simp [Judged, clear, verdict, named, start, opening, closing, fine, line]

theorem exists_verdict_iff (issues : List Issue) :
    (∃ lines, verdict s issues = .ok lines) ↔ s.IsNamed := by
  unfold verdict Schema.IsNamed
  cases s.tableName <;> simp

/-- A stream that takes every text takes what is said about a schema. -/
theorem judged_iff_of_takesAll (takes : out.TakesAll) :
    Judged out s ↔ (∃ issues, s.issues = .ok issues) ∧ s.IsNamed := by
  constructor
  · rintro ⟨issues, lines, found, said, -⟩
    exact ⟨⟨issues, found⟩, (exists_verdict_iff issues).mp ⟨lines, said⟩⟩
  · rintro ⟨⟨issues, found⟩, named⟩
    obtain ⟨lines, said⟩ := (exists_verdict_iff issues).mpr named
    exact ⟨issues, lines, found, said, fun line _ => takes line⟩

/-- Validating goes past a schema that can be judged, and notes whether it has issues. -/
theorem validateAll_cons_of_judged (judged : Judged out s) :
    ∃ lines issues, s.issues = .ok issues ∧ validateAll out output failed (s :: rest) =
      validateAll out (output ++ String.join lines) (failed || !issues.isEmpty) rest := by
  obtain ⟨issues, lines, found, said, taken⟩ := judged
  refine ⟨lines, issues, found, ?_⟩
  rw [validateAll, found]
  simp only [said, print_of_takes taken]

theorem validateAll_cons_of_not_judged (not : ¬ Judged out s) :
    ∃ f written, validateAll out output failed (s :: rest) = .faulted f written "" := by
  rw [validateAll]
  cases found : s.issues with
  | error f => exact ⟨f, output, rfl⟩
  | ok issues =>
    cases said : verdict s issues with
    | error f => exact ⟨f, output, by simp only [said]⟩
    | ok lines =>
      rcases out.takes_all_or_first lines with taken | ⟨before, line, after, rfl, taken, untaken⟩
      · exact absurd ⟨issues, lines, found, said, taken⟩ not
      · obtain ⟨codePoint, first, last, refused⟩ := Stdout.exists_refusal untaken
        simp only [said]
        exact ⟨_, _, print_of_refused taken refused⟩

/-- Validating ends with a status exactly if all schemas can be judged. It is zero if no schema
has issues and none had before, and otherwise it is one. -/
theorem status_validateAll_eq_ok_iff {n : Nat} :
    (validateAll out output failed schemas).status = .ok n ↔
      (∀ s ∈ schemas, Judged out s) ∧
        ((n = 0 ∧ failed = false ∧ ∀ s ∈ schemas, s.issues = .ok []) ∨
          (n = 1 ∧ (failed = true ∨ ∃ s ∈ schemas, s.issues ≠ .ok []))) := by
  induction schemas generalizing output failed with
  | nil => cases failed <;> simp [validateAll, Outcome.ended, eq_comm]
  | cons s rest ih =>
    rw [List.forall_mem_cons]
    by_cases judged : Judged out s
    · obtain ⟨lines, issues, found, next⟩ := validateAll_cons_of_judged judged
      rw [next, ih, List.forall_mem_cons, and_iff_right judged]
      refine and_congr_right fun _ => ?_
      cases issues <;> simp [found]
    · obtain ⟨f, written, faulted⟩ := validateAll_cons_of_not_judged judged
      rw [faulted]
      simp [judged, Outcome.faulted]

end Validate

section Drop

theorem status_render_eq_zero_iff (operation : Operation)
    (loaded : Loading.load files path settings.tablePrefix = .ok schemas) :
    (render out operation files path settings).status = .ok 0 ↔
      ∀ s ∈ schemas,
        ∃ sql, Engine.standard.query operation (trailerOf settings) s = .ok sql ∧
          out.takes sql = true := by
  rw [render_of_load_ok operation loaded, status_printedAll_eq_ok_iff,
    ← Result.exists_mapM_forall_iff]
  simp

theorem status_render_eq_one_iff (operation : Operation)
    (loaded : Loading.load files path settings.tablePrefix = .ok schemas) :
    (render out operation files path settings).status = .ok 1 ↔
      ∃ e, schemas.mapM (Engine.standard.query operation (trailerOf settings)) =
        .error (.refused e) := by
  rw [render_of_load_ok operation loaded, status_printedAll_eq_ok_iff]
  simp

theorem status_drop_eq_zero_iff
    (loaded : Loading.load files path settings.tablePrefix = .ok schemas) :
    (render out .drop files path settings).status = .ok 0 ↔
      ∀ s ∈ schemas, s.issues = .ok [] ∧
        ∃ tableName, s.tableName = .ok tableName ∧ out.takes tableName = true := by
  have start : out.takes "DROP TABLE IF EXISTS " = true := Stdout.takes_of_ascii (by decide)
  have stop : out.takes ";" = true := Stdout.takes_of_ascii (by decide)
  rw [status_render_eq_zero_iff .drop loaded]
  refine forall₂_congr fun s _ => ?_
  constructor
  · rintro ⟨sql, made, taken⟩
    obtain ⟨clear, tableName, named, rfl⟩ := Engine.query_drop_eq_ok_iff.mp made
    exact ⟨clear, tableName, named, by simpa [start, stop] using taken⟩
  · rintro ⟨clear, tableName, named, taken⟩
    exact ⟨_, Engine.query_drop_eq_ok_iff.mpr ⟨clear, tableName, named, rfl⟩,
      by simp [start, stop, taken]⟩

theorem exists_invalid_of_refused {operation : Operation} {trailer : String} {e : EngineError}
    (refused : schemas.mapM (Engine.standard.query operation trailer) = .error (.refused e)) :
    ∃ s ∈ schemas, s.issues ≠ .ok [] := by
  obtain ⟨before, s, after, _, issue, issues, rfl, -, found, -⟩ := first_invalid_of_refused refused
  exact ⟨s, by simp, by simp [found]⟩

/-- Of schemas that can be checked and have names, dropping stops at one that has issues, if there
is any. -/
theorem status_drop_eq_one_iff
    (loaded : Loading.load files path settings.tablePrefix = .ok schemas)
    (checked : ∀ s ∈ schemas, ∃ issues, s.issues = .ok issues) (named : ∀ s ∈ schemas, s.IsNamed) :
    (render out .drop files path settings).status = .ok 1 ↔
      ∃ s ∈ schemas, s.issues ≠ .ok [] := by
  rw [status_render_eq_one_iff .drop loaded]
  constructor
  · rintro ⟨e, refused⟩
    exact exists_invalid_of_refused refused
  · rintro ⟨s, member, invalid⟩
    cases made : schemas.mapM (Engine.standard.query .drop (trailerOf settings)) with
    | ok sqls =>
      obtain ⟨sql, asked⟩ := Result.exists_mapM_eq_ok_iff.mp ⟨sqls, made⟩ s member
      exact absurd (Engine.issues_of_query_ok asked) invalid
    | error failure =>
      obtain ⟨before, stop, after, rfl, -, stops⟩ := Result.mapM_eq_error_iff.mp made
      obtain ⟨issues, found⟩ := checked stop (by simp)
      obtain ⟨e, rfl⟩ := Engine.refused_of_query_drop_error found (named stop (by simp)) stops
      exact ⟨e, rfl⟩

end Drop

/-- The first line of a validation is taken by every stream. -/
theorem validate_of_load_ok (out : Stdout)
    (loaded : Loading.load files path settings.tablePrefix = .ok schemas) :
    ∃ announced, validate out files path settings = validateAll out announced false schemas := by
  have start : out.takes "Validated " = true := Stdout.takes_of_ascii (by decide)
  have stop : out.takes " tables:\n" = true := Stdout.takes_of_ascii (by decide)
  rw [validate, loaded]
  exact ⟨_, print_of_takes (by simp [start, stop])⟩

theorem status_validate_eq_zero_iff
    (loaded : Loading.load files path settings.tablePrefix = .ok schemas) :
    (validate out files path settings).status = .ok 0 ↔
      ∀ s ∈ schemas, s.issues = .ok [] ∧
        ∃ tableName, s.tableName = .ok tableName ∧ out.takes tableName = true := by
  obtain ⟨announced, same⟩ := validate_of_load_ok out loaded
  rw [same, status_validateAll_eq_ok_iff]
  constructor
  · rintro ⟨judged, ⟨-, -, clear⟩ | ⟨other, -⟩⟩
    · exact fun s member =>
        ⟨clear s member, (judged_iff_of_clear (clear s member)).mp (judged s member)⟩
    · cases other
  · intro fine
    exact ⟨fun s member => (judged_iff_of_clear (fine s member).1).mpr (fine s member).2,
      .inl ⟨rfl, rfl, fun s member => (fine s member).1⟩⟩

theorem status_validate_eq_one_iff
    (loaded : Loading.load files path settings.tablePrefix = .ok schemas) :
    (validate out files path settings).status = .ok 1 ↔
      (∀ s ∈ schemas, Judged out s) ∧ ∃ s ∈ schemas, s.issues ≠ .ok [] := by
  obtain ⟨announced, same⟩ := validate_of_load_ok out loaded
  rw [same, status_validateAll_eq_ok_iff]
  simp

/-- Validating ends with status zero exactly if dropping does. -/
theorem status_validate_eq_zero_iff_drop (out : Stdout) (files : Files) (path : Path)
    (settings : Settings) :
    (validate out files path settings).status = .ok 0 ↔
      (render out .drop files path settings).status = .ok 0 := by
  cases loaded : Loading.load files path settings.tablePrefix with
  | ok schemas => rw [status_validate_eq_zero_iff loaded, status_drop_eq_zero_iff loaded]
  | error failure =>
    rw [render_of_load_error .drop loaded]
    refine iff_of_false ?_ (status_unloaded_ne_zero failure)
    cases failure <;> simp [validate, loaded, Outcome.ended, Outcome.faulted]

/-- Where the statements that create all tables are printed, validating has nothing to complain
about. -/
theorem status_validate_of_create
    (created : (render out .create files path settings).status = .ok 0) :
    (validate out files path settings).status = .ok 0 := by
  cases loaded : Loading.load files path settings.tablePrefix with
  | ok schemas =>
    rw [status_render_eq_zero_iff .create loaded] at created
    rw [status_validate_eq_zero_iff loaded]
    intro s member
    obtain ⟨sql, asked, taken⟩ := created s member
    obtain ⟨tableName, rest, named, rfl⟩ := Engine.name_of_query_create asked
    simp only [Stdout.takes_append, Bool.and_eq_true] at taken
    exact ⟨Engine.issues_of_query_ok asked, tableName, named, taken.1.2⟩
  | error failure =>
    rw [render_of_load_error .create loaded] at created
    exact absurd created (status_unloaded_ne_zero failure)

/-- Validating and dropping end with status zero under the same circumstances, and under these
only creating may do so. Where the descriptions are refused, every command prints nothing and ends
with status one. Where all schemas can be checked and the stream takes every text, validating and
dropping end with status one exactly if some schema has issues, provided that all names can be
written or none has issues, and not otherwise. -/
theorem validate_agrees_with_drop (out : Stdout) (files : Files) (path : Path)
    (settings : Settings) :
    ((validate out files path settings).status = .ok 0 ↔
        (render out .drop files path settings).status = .ok 0) ∧
      ((render out .create files path settings).status = .ok 0 →
        (validate out files path settings).status = .ok 0) ∧
      (∀ e, Loading.load files path settings.tablePrefix = refuse e → ∀ c,
        (perform c out files path settings).status = .ok 1 ∧
          (perform c out files path settings).output = "") ∧
      (out.TakesAll → ∀ schemas, Loading.load files path settings.tablePrefix = .ok schemas →
        (∀ s ∈ schemas, ∃ issues, s.issues = .ok issues) →
          ((((validate out files path settings).status = .ok 1 ↔
                ∃ s ∈ schemas, s.issues ≠ .ok []) ∧
              ((render out .drop files path settings).status = .ok 1 ↔
                ∃ s ∈ schemas, s.issues ≠ .ok [])) ↔
            (∀ s ∈ schemas, s.IsNamed) ∨ ∀ s ∈ schemas, s.issues = .ok [])) := by
  refine ⟨status_validate_eq_zero_iff_drop out files path settings, status_validate_of_create,
    ?_, ?_⟩
  · intro e refused c
    obtain ⟨kind, ended⟩ := perform_of_refused refused c out
    rw [ended]
    exact ⟨rfl, rfl⟩
  · intro takes schemas loaded checked
    have clear_iff : (∀ s ∈ schemas, s.issues = .ok []) ↔ ¬ ∃ s ∈ schemas, s.issues ≠ .ok [] := by
      simp
    have judged_iff (s : Schema) (member : s ∈ schemas) : Judged out s ↔ s.IsNamed := by
      rw [judged_iff_of_takesAll takes, and_iff_right (checked s member)]
    rw [status_validate_eq_one_iff loaded, clear_iff]
    constructor
    · rintro ⟨validated, -⟩
      by_cases invalid : ∃ s ∈ schemas, s.issues ≠ .ok []
      · exact .inl fun s member => (judged_iff s member).mp ((validated.mpr invalid).1 s member)
      · exact .inr invalid
    · rintro (named | clear)
      · have judged : ∀ s ∈ schemas, Judged out s := fun s member =>
          (judged_iff s member).mpr (named s member)
        exact ⟨and_iff_right judged, status_drop_eq_one_iff loaded checked named⟩
      · refine ⟨iff_of_false (fun ended => clear ended.2) clear, ?_⟩
        rw [status_render_eq_one_iff .drop loaded]
        refine iff_of_false ?_ clear
        rintro ⟨e, refused⟩
        exact clear (exists_invalid_of_refused refused)

/-- Both stumble over the second table. -/
theorem validate_agrees_with_drop_untypedSecond :
    Stdout.memory.TakesAll ∧
      ∃ schemas, Loading.load untypedSecond (Path.ofText "t.yaml") none = .ok schemas ∧
        (∀ s ∈ schemas, ∃ issues, s.issues = .ok issues) ∧ (∀ s ∈ schemas, s.IsNamed) ∧
        (validate .memory untypedSecond (Path.ofText "t.yaml") {}).status = .ok 1 ∧
        (render .memory .drop untypedSecond (Path.ofText "t.yaml") {}).status = .ok 1 := by
  obtain ⟨-, -, -, agree⟩ :=
    validate_agrees_with_drop .memory untypedSecond (Path.ofText "t.yaml") {}
  obtain ⟨schemas, loaded, checked, named, invalid⟩ :
      ∃ schemas, Loading.load untypedSecond (Path.ofText "t.yaml") none = .ok schemas ∧
        (∀ s ∈ schemas, ∃ issues, s.issues = .ok issues) ∧ (∀ s ∈ schemas, s.IsNamed) ∧
        ∃ s ∈ schemas, s.issues ≠ .ok [] := by
    decide +kernel
  obtain ⟨validated, dropped⟩ := (agree Stdout.takesAll_memory schemas loaded checked).mpr
    (.inl named)
  exact ⟨Stdout.takesAll_memory, schemas, loaded, checked, named, validated.mpr invalid,
    dropped.mpr invalid⟩

/-- The description of a table with a column without a type, under a name that is a number of more
digits than are written. -/
def numberedName : List (Value × Value) :=
  [(.str "table", .int (16 ^ 3600 - 1)), (.str "columns", .list [.map [(.str "name", .str "a")]])]

theorem exists_table_numberedName :
    ∃ s, Loading.table (.map numberedName) = .ok s ∧ ¬ s.baseName.Writable ∧
      (∃ issues, s.issues = .ok issues) ∧ s.issues ≠ .ok [] := by
  decide +kernel

/-- A file with this description is loaded, and its schema has issues, but neither command ends with
a status, whatever the prefix for all tables is. -/
theorem not_status_one_numberedName :
    (∃ s, Loading.table (.map numberedName) = .ok s) ∧
      ∀ (out : Stdout) (files : Files) (path : Path) (bytes : List UInt8) (settings : Settings),
        files path = .file bytes → Loading.fileValue path bytes = .ok (.map numberedName) →
          ∃ s, Loading.load files path settings.tablePrefix = .ok [s] ∧
            (∃ issues, s.issues = .ok issues) ∧ s.issues ≠ .ok [] ∧
            (validate out files path settings).status ≠ .ok 1 ∧
            (render out .drop files path settings).status ≠ .ok 1 := by
  obtain ⟨s, described, unwritable, checked, invalid⟩ := exists_table_numberedName
  refine ⟨⟨s, described⟩, ?_⟩
  intro out files path bytes settings stands read
  obtain ⟨own, prefixed⟩ := s.exists_withDefaultPrefix_eq (settings.tablePrefix.getD "")
  have loaded : Loading.load files path settings.tablePrefix =
      .ok [{ s with tablePrefix := own }] := by
    rw [load_file stands, Loading.file_of_no_tables read (by decide), described, ← prefixed]
    rfl
  have unnamed : ¬ Schema.IsNamed { s with tablePrefix := own } := by
    rw [Loading.isNamed_iff_writable]
    exact fun named => unwritable named.2
  rw [← Schema.issues_tablePrefix own] at checked invalid
  refine ⟨{ s with tablePrefix := own }, loaded, checked, invalid, ?_, ?_⟩
  · rw [ne_eq, status_validate_eq_one_iff loaded]
    rintro ⟨judged, -⟩
    obtain ⟨issues, lines, -, said, -⟩ := judged _ List.mem_cons_self
    exact unnamed ((exists_verdict_iff issues).mp ⟨lines, said⟩)
  · rw [ne_eq, status_render_eq_one_iff .drop loaded]
    rintro ⟨e, refused⟩
    obtain ⟨before, stop, after, tableName, issue, issues, split, -, -, named, -⟩ :=
      first_invalid_of_refused refused
    have member : stop ∈ [{ s with tablePrefix := own }] := by simp [split]
    rw [List.mem_singleton] at member
    exact unnamed ⟨tableName, member ▸ named⟩

end TableDdl.Cli
