import TableDdl.Proofs.Draft.Granted
import TableDdl.Proofs.Draft.Textual
import TableDdl.Proofs.Schema.Removal
import TableDdl.Proofs.Schema.Types

/-!
# Taking a column out of a draft

A column that is taken out of a draft leaves its keys behind, which are reported as long as there
is no column of that name. Declared again with a type the column takes these issues away, and
nothing else.
-/

namespace TableDdl

namespace Draft

variable {d : Draft} {n : String}

theorem remove_str (known : d.schema.hasColumn (.str n) = .ok true) :
    d.remove (.str n) = .ok { d with names := d.names.erase (.text n) } := by
  have there : d.names.contains (.text n) = true := by
    rw [Schema.hasColumn_str, Except.ok.injEq, columns_schema, NameMap.contains_map] at known
    exact known
  exact answer_remove_eq_ok_iff.mpr ⟨.text n, Value.key_str n, there, rfl⟩

theorem schema_remove (d : Draft) (n : String) :
    schema { d with names := d.names.erase (.text n) } = d.schema.without n :=
  congrArg (fun columns => { d.schema with columns }) (NameMap.map_erase _ d.names (.text n))

/-- To take a column out of a schema that was written with texts for names leaves the keys as they
are. Its missing type is not reported any more, one issue is added for each key on it, at its turn
among the keys, and all else stays as it is. When the column is declared again with a type that is
not blank, the issues are those from before without the one about its type. -/
theorem issues_remove_declare (name : Value) (requests : List Request) (n : String)
    (texts : (written name requests).NamedByTexts)
    (known : (written name requests).hasColumn (.str n) = .ok true) :
    let d := serveAll { baseName := name } requests
    ∃ r removed, d.schema.Yields r ∧ d.schema.issues = .ok r.issues ∧
      d.remove (.str n) = .ok removed ∧ removed.indexes = d.indexes ∧
      removed.foreignKeys = d.foreignKeys ∧
      (∃ r', removed.schema.Yields r' ∧ removed.schema.issues = .ok r'.issues ∧
        d.schema.Loses n r r') ∧
      ∀ edits type, (Column.editAll { name := .str n } edits).type = some type →
        Text.strip type ≠ "" →
        ∃ again, removed.answerAll
            (.declare (.str n) :: edits.map (.editColumn removed.columns.length)) = .ok again ∧
          again.indexes = d.indexes ∧ again.foreignKeys = d.foreignKeys ∧
          again.schema.issues = .ok (Report.issues
            { r with untyped := r.untyped.filter fun i => !i.column.isSameName (.str n) }) := by
  intro d
  have fresh : WellNamed { baseName := name } := .of_no_names rfl
  have named : d.WellNamed := fresh.serveAll requests
  obtain ⟨r, yields⟩ := texts.exists_yields
  obtain ⟨r', yields', loses⟩ := yields.without texts named.schema known
  refine ⟨r, { d with names := d.names.erase (.text n) }, yields, texts.issues_eq yields,
    remove_str known, rfl, rfl, ?removed, ?again⟩
  case removed =>
    rw [schema_remove]
    exact ⟨r', yields', (texts.without named.schema).issues_eq yields', loses⟩
  case again =>
    intro edits type typed notBlank
    refine ⟨_, answerAll_declare (Value.key_str n) edits, rfl, rfl, ?_⟩
    rw [schema_declare (named.remove (.text n)), schema_remove]
    exact (texts.declared_without named.schema (Column.name_editAll _ edits)).issues_eq
      (yields.declared_without texts named.schema known
        (Column.normalizedType_ne_empty typed notBlank))

/-- Requests for a column without a type, with one key on another column and two on this one. -/
def keyedColumn : List Request :=
  [.declare (.str "a"), .addIndex (.str "b") .null, .addIndex (.str "a") .null,
    .addForeignKey (.str "a") .null]

theorem issues_remove_declare_keyedColumn :
    let d := serveAll { baseName := .str "t" } keyedColumn
    (written (.str "t") keyedColumn).hasColumn (.str "a") = .ok true ∧
      ∃ r removed r' again, d.schema.issues = .ok r.issues ∧ d.remove (.str "a") = .ok removed ∧
        removed.schema.issues = .ok r'.issues ∧ d.schema.Loses "a" r r' ∧
        removed.answerAll
            [.declare (.str "a"), .editColumn removed.columns.length (.int none)] = .ok again ∧
        again.schema.issues = .ok (Report.issues
          { r with untyped := r.untyped.filter fun i => !i.column.isSameName (.str "a") }) := by
  have texts : (written (.str "t") keyedColumn).NamedByTexts :=
    (written_isTextual (.str "t") (by decide)).namedByTexts
  have known : (written (.str "t") keyedColumn).hasColumn (.str "a") = .ok true := by decide
  obtain ⟨r, removed, -, found, removes, -, -, ⟨r', -, found', loses⟩, declares⟩ :=
    issues_remove_declare (.str "t") keyedColumn "a" texts known
  obtain ⟨again, granted, -, -, found''⟩ := declares [.int none] "int" rfl (by decide)
  exact ⟨known, r, removed, r', again, found, removes, found', loses, granted, found''⟩

end Draft

end TableDdl
