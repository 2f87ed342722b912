import TableDdl.Files.Tree
import TableDdl.Proofs.Engine.Checked
import TableDdl.Proofs.Loading.FinalNames
import TableDdl.Proofs.Validation

/-!
# What a prefix for all tables reaches

A prefix for all tables is put in front of the names of those that have none of their own. It
reaches nothing else: neither the columns and keys of a table, nor what the checks find, nor any
part of a statement but the name of the table in it. So of two runs over the same files, one
without the prefix and one with it, the first tells what the second gives, table by table.
-/

namespace TableDdl

/-- How the statement for an operation begins, up to the name of the table. -/
def Operation.opening : Operation → String
  | .create => "CREATE TABLE "
  | .drop => "DROP TABLE IF EXISTS "

/-- What comes of an operation on two tables, by their names if these can be written, differs in
nothing but the name: there are two statements, or two refusals for one list of issues, or one
fault. -/
inductive DifferInName (operation : Operation) :
    Except Fault String → Except Fault String →
      Attempt EngineError String → Attempt EngineError String → Prop
  | made (name name' closing : String) :
    DifferInName operation (.ok name) (.ok name') (.ok (operation.opening ++ name ++ closing))
      (.ok (operation.opening ++ name' ++ closing))
  | invalid (name name' : String) (issues : List Issue) :
    DifferInName operation (.ok name) (.ok name') (refuse (.invalid name issues))
      (refuse (.invalid name' issues))
  | faulted (called called' : Except Fault String) (f : Fault) :
    DifferInName operation called called' (.error (.fault f)) (.error (.fault f))

namespace Engine

variable {operation : Operation} {trailer : String} {s t : Schema}

/-- What the statement for an operation says behind the name of the table. -/
def closing (e : Engine) (operation : Operation) (trailer : String) (s : Schema) :
    Except Fault String :=
  match operation with
  | .create => do
    let clauses ← e.clauses s
    return " (\n" ++ ",\n".intercalate clauses ++ "\n)" ++
      if trailer = "" then "" else " " ++ trailer
  | .drop => .ok ";"

/-- The name of the table comes into a statement after all else was looked at, between its opening
and its closing. -/
theorem query_eq (e : Engine) (operation : Operation) (trailer : String) (s : Schema) :
    e.query operation trailer s =
      (e.check s >>= fun _ => Attempt.ofFault (e.closing operation trailer s) >>= fun closing =>
        Attempt.ofFault s.tableName >>= fun name =>
          .ok (operation.opening ++ name ++ closing)) := by
  cases operation with
  | create =>
    simp only [query, statement, createStatement, closing]
    cases e.check s with
    | error failure => rfl
    | ok checked =>
      cases e.clauses s with
      | error f => rfl
      | ok clauses =>
        cases s.tableName with
        | error f => rfl
        | ok name =>
          by_cases plain : trailer = "" <;>
            simp [plain, Operation.opening, ← String.append_assoc, Functor.map, Except.map]
  | drop =>
    simp only [query, statement, dropStatement, closing]
    cases e.check s with
    | error failure => rfl
    | ok checked =>
      cases s.tableName with
      | error f => rfl
      | ok name => rfl

/-- Schemas with the same issues and clauses, of which both or none can be named, get statements
that differ in nothing but the name. -/
theorem differInName_query (issues : t.issues = s.issues) (clauses : t.clauses = s.clauses)
    (nameless : ∀ f, s.tableName = .error f ↔ t.tableName = .error f) :
    DifferInName operation s.tableName t.tableName (standard.query operation trailer s)
      (standard.query operation trailer t) := by
  have closings : standard.closing operation trailer t = standard.closing operation trailer s := by
    cases operation with
    | create => simp only [closing, standard, clauses]
    | drop => rfl
  rw [query_eq, query_eq, check_standard, check_standard, closings, issues]
  cases s.issues with
  | error f => exact .faulted _ _ f
  | ok found =>
    -- A name that cannot be written ends both, either in the refusal or behind the closing.
    cases named : s.tableName with
    | error f =>
      rw [(nameless f).mp named]
      cases found with
      | nil =>
        cases standard.closing operation trailer s with
        | error f => exact .faulted _ _ f
        | ok closing => exact .faulted _ _ f
      | cons issue issues => exact .faulted _ _ f
    | ok name =>
      cases named' : t.tableName with
      | error f => cases ((nameless f).mpr named').symm.trans named
      | ok name' =>
        cases found with
        | nil =>
          cases standard.closing operation trailer s with
          | error f => exact .faulted _ _ f
          | ok closing => exact .made name name' closing
        | cons issue issues => exact .invalid name name' (issue :: issues)

end Engine

/-- A table is another one with a prefix for all tables: it is called so unless the other has a
prefix of its own, and differs from it in nothing else. -/
structure Schema.IsFronted (front : String) (s t : Schema) : Prop where
  columns : t.columns = s.columns
  indexes : t.indexes = s.indexes
  foreignKeys : t.foreignKeys = s.foreignKeys
  issues : t.issues = s.issues
  tableName : t.tableName = if s.hasPrefix then s.tableName else (front ++ ·) <$> s.tableName
  statements : ∀ (operation : Operation) (trailer : String),
    DifferInName operation s.tableName t.tableName (Engine.standard.query operation trailer s)
      (Engine.standard.query operation trailer t)

theorem Schema.isFronted_withDefaultPrefix (front : String) (s : Schema) :
    s.IsFronted front (s.withDefaultPrefix front) := by
  have called : (s.withDefaultPrefix front).tableName =
      if s.hasPrefix then s.tableName else (front ++ ·) <$> s.tableName := by
    rw [tableName_withDefaultPrefix_eq_finalName]
    split
    · rename_i own
      exact finalName_of_hasPrefix own front
    · rename_i bare
      exact finalName_of_bare (by simpa using bare) front
  have nameless : ∀ f, s.tableName = .error f ↔
      (s.withDefaultPrefix front).tableName = .error f := by
    intro f
    rw [called]
    split
    · rfl
    · cases s.tableName <;> simp [Functor.map, Except.map]
  obtain ⟨own, same⟩ := s.exists_withDefaultPrefix_eq front
  have issues : (s.withDefaultPrefix front).issues = s.issues := by
    rw [same, issues_tablePrefix]
  have clauses : (s.withDefaultPrefix front).clauses = s.clauses := by
    rw [same]
    rfl
  refine ⟨?_, ?_, ?_, issues, called, fun operation trailer =>
    Engine.differInName_query issues clauses nameless⟩ <;> rw [same]

namespace Loading

variable {files : Files} {path : Path} {front : String} {bare fronted : List Schema}

/-- A prefix for all tables comes in after everything was loaded without it. -/
theorem load_eq_map (files : Files) (path : Path) (tablePrefix : Option String) :
    load files path tablePrefix =
      (List.map (·.withDefaultPrefix (tablePrefix.getD "")) <$> load files path none) := by
  have later : ∀ r : Attempt LoadError (List Schema),
      (r >>= fun tables => pure (tables.map (·.withDefaultPrefix (tablePrefix.getD "")))) =
        (List.map (·.withDefaultPrefix (tablePrefix.getD "")) <$>
          (r >>= fun tables => pure (tables.map (·.withDefaultPrefix "")))) := by
    intro r
    cases r <;> simp [Schema.withDefaultPrefix, Functor.map, Except.map]
  unfold load
  cases files path with
  | file bytes => exact later (file path bytes)
  | directory names => exact later (directory files path names)
  | missing => rfl
  | nameTooLong => rfl

/-- What is loaded with a prefix for all tables is what is loaded without one, table by table and
in the same order, with the prefix in front of the names of those that have none of their own. -/
theorem load_isFronted (without : load files path none = .ok bare)
    (behind : load files path (some front) = .ok fronted) :
    List.Forall₂ (Schema.IsFronted front) bare fronted := by
  rw [load_eq_map, without] at behind
  cases behind
  rw [List.forall₂_map_right_iff, List.forall₂_same]
  intro s member
  exact s.isFronted_withDefaultPrefix front

/-- A file with a table behind a prefix of its own, and a table with a column and without a
prefix. -/
def ownAndBare : FileTree :=
  { files := [(["t.yaml"],
      "tables:\n- table: a\n  prefix: own_\n- table: b\n  columns:\n  - name: c\n".toUTF8.toList)] }

theorem load_isFronted_ownAndBare :
    ∃ bare fronted,
      load ownAndBare.lookup (Path.ofText "t.yaml") none = .ok bare ∧
        load ownAndBare.lookup (Path.ofText "t.yaml") (some "wp_") = .ok fronted ∧
        List.Forall₂ (Schema.IsFronted "wp_") bare fronted := by
  have loaded : ∃ bare, load ownAndBare.lookup (Path.ofText "t.yaml") none = .ok bare := by
    decide +kernel
  obtain ⟨bare, loaded⟩ := loaded
  have behind : load ownAndBare.lookup (Path.ofText "t.yaml") (some "wp_") =
      .ok (bare.map (·.withDefaultPrefix "wp_")) := by
    rw [load_eq_map, loaded]
    rfl
  exact ⟨bare, _, loaded, behind, load_isFronted loaded behind⟩

end Loading

end TableDdl
