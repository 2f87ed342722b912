import TableDdl.Loading.Files
import TableDdl.Proofs.Result

/-!
# The tables at a path

Which tables are described at a path, whatever their names are. This is the part of loading that
comes before tables are compared with each other: loading a file is reading its tables and then
looking for two of one name, and a directory does the same with the tables of its files.
-/

namespace TableDdl

/-- Whether the table has a name that can be written. -/
def Schema.IsNamed (s : Schema) : Prop :=
  ∃ name, s.tableName = .ok name

instance (s : Schema) : Decidable s.IsNamed :=
  inferInstanceAs (Decidable (∃ name, s.tableName = .ok name))

namespace Loading

/-- The tables that a file describes. -/
def fileTables (path : Path) (bytes : List UInt8) : Attempt LoadError (List Schema) := do
  match ← fileValue path bytes with
  | .null => refuse (.emptyFile path.text)
  | .map entries =>
    match Value.field? entries "tables" with
    | none => return [← table (.map entries)]
    | some tables => (← elements tables).mapM table
  | _ => refuse (.notMapping path.text)

/-- The tables that are described by an entry of a directory. -/
def memberTables (files : Files) (path : Path) : Attempt LoadError (List Schema) :=
  match files path with
  | .file bytes => fileTables path bytes
  | .directory _ => .error (.fault (.isDirectory path.text))
  | .missing => .error (.fault (.noSuchFile path.text))
  | .nameTooLong => .error (.fault (.nameTooLong path.text))

/-- The names of the YAML files among the names in a directory, in their order. -/
def yamlNames (names : List String) : List String :=
  (names.filter isYamlName).mergeSort Text.noLaterThan

/-- The tables that are described by what stands at a path. -/
def tablesAt (files : Files) (path : Path) : Attempt LoadError (List Schema) :=
  match files path with
  | .file bytes => fileTables path bytes
  | .directory names =>
    List.flatten <$> (yamlNames names).mapM fun name => memberTables files (path.join name)
  | .missing => refuse (.noSuchPath path.text)
  | .nameTooLong => .error (.fault (.nameTooLong path.text))

/-- A single table that has a name differs from all others there are. -/
theorem checkDistinct_singleton (place : Place) {s : Schema} (named : s.IsNamed) :
    checkDistinct place [s] = .ok () := by
  obtain ⟨name, written⟩ := named
  simp [checkDistinct, checkDistinct.go, written]

/-- Loading a file is reading its tables and then looking for two of one name. -/
theorem file_eq_checked {path : Path} {bytes : List UInt8} {tables : List Schema}
    (described : fileTables path bytes = .ok tables) (named : ∀ s ∈ tables, s.IsNamed) :
    file path bytes = (checkDistinct (.file path.text) tables >>= fun _ => .ok tables) := by
  obtain ⟨value, read, described⟩ := Result.bind_eq_ok_iff.mp described
  rw [file, read, Result.ok_bind]
  cases value with
  | map entries =>
    cases listed : Value.field? entries "tables" with
    | none =>
      simp only [listed] at described
      obtain ⟨s, parsed, single⟩ := Result.bind_eq_ok_iff.mp described
      cases single
      simp only [listed, parsed, Result.ok_bind]
      rw [checkDistinct_singleton _ (named s (List.mem_singleton_self s))]
      rfl
    | some tables =>
      simp only [listed] at described
      obtain ⟨items, found, parsed⟩ := Result.bind_eq_ok_iff.mp described
      simp only [listed, found, parsed, Result.ok_bind]
      rfl
  | _ => cases described

end Loading

end TableDdl
