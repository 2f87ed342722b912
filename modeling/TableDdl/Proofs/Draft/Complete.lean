import TableDdl.Proofs.Draft.Textual
import TableDdl.Proofs.Schema.Complete
import Mathlib.Algebra.Group.Int.Defs

/-!
# Complete drafts

A schema that was written with texts for names can always be checked. Whether it has issues then
decides whether it has a complete rendering, in all cases but one: no issue is found where the
length or the precision of a column has too many digits to be written, and such a schema has no
rendering at all.
-/

namespace TableDdl.Draft

/-- A schema that is written with texts for names can be checked, and it has a rendering exactly if
the sizes that are written are short enough. In a rendering everything is complete exactly if there
are no issues. So the checks decide whether there is a complete rendering, unless there are no
issues while some size is too long. -/
theorem written_checksDecide_iff (name : Value) {requests : List Request}
    (asked : ∀ r ∈ requests, r.isTextual = true) :
    (∃ found, (written name requests).issues = .ok found) ∧
      ((∃ r, (written name requests).Renders r) ↔
        ∀ c ∈ (written name requests).columnList, c.WritableSizes) ∧
      (∀ r, (written name requests).Renders r →
        (written name requests).clauses =
            .ok (r.columns ++ r.primaryKey ++ r.indexes ++ r.foreignKeys) ∧
          ((written name requests).issues = .ok [] ↔ r.IsComplete (written name requests))) ∧
      ((written name requests).ChecksDecide ↔
        ((written name requests).issues = .ok [] →
          ∀ c ∈ (written name requests).columnList, c.WritableSizes)) := by
  have named := written_wellNamed name requests
  have textual := written_isTextual name asked
  refine ⟨Schema.exists_issues_iff.mpr textual.checkable, textual.exists_renders_iff,
    fun r renders => ⟨Schema.clauses_eq_ok_iff.mpr ⟨r, renders, rfl⟩, ?_⟩,
    textual.checksDecide_iff named⟩
  exact textual.issues_nil_iff_isComplete named renders

/-- Requests for a table with a primary key and with a foreign key on one column, in which the
foreign key comes first and another column is refused. -/
def keyedTable : List Request :=
  [.addForeignKey (.str "id") .null, .editForeignKey 0 (.referenceTable (.str "owners")),
    .declare (.str "id"), .editColumn 0 (.int none), .remove (.str "name"),
    .editForeignKey 0 (.referenceColumn (.str "id")), .addIndex (.str "id") .null,
    .editIndex 0 (.primary true)]

/-- The checks find nothing, and the table has a complete rendering. -/
theorem isComplete_keyedTable :
    (∀ r ∈ keyedTable, r.isTextual = true) ∧
      ∃ r, (written (.str "pets") keyedTable).Renders r ∧
        r.IsComplete (written (.str "pets") keyedTable) := by
  have asked : ∀ r ∈ keyedTable, r.isTextual = true := by decide
  have clear : (written (.str "pets") keyedTable).issues.toOption.map (·.length) = some 0 := by
    decide +kernel
  obtain ⟨clauses, made⟩ :
      ∃ clauses, (written (.str "pets") keyedTable).clauses = .ok clauses := by
    decide +kernel
  obtain ⟨r, renders, -⟩ := Schema.clauses_eq_ok_iff.mp made
  obtain ⟨⟨found, ended⟩, -, complete, -⟩ := written_checksDecide_iff (.str "pets") asked
  rw [ended] at clear
  have none : found = [] := List.length_eq_zero_iff.mp (Option.some.inj clear)
  exact ⟨asked, r, renders, (complete r renders).2.mp (none ▸ ended)⟩

/-- Requests for a table with a column whose length has too many digits. -/
def longColumn : List Request :=
  [.declare (.str "c"), .editColumn 0 (.int (some (10 ^ 4300)))]

/-- The checks find nothing, but the clause of the column cannot be written. -/
theorem not_checksDecide_longColumn :
    (∀ r ∈ longColumn, r.isTextual = true) ∧
      (written (.str "t") longColumn).columnClauses = .error .integerUnwritable ∧
      ¬ (written (.str "t") longColumn).ChecksDecide := by
  have clear : (written (.str "t") longColumn).issues.toOption.map (·.length) = some 0 := by
    decide +kernel
  have unwritten : (written (.str "t") longColumn).columnClauses = .error .integerUnwritable := by
    decide +kernel
  refine ⟨by decide, unwritten, ?_⟩
  rintro ⟨found, ended, decided⟩
  rw [ended] at clear
  obtain ⟨r, renders, -⟩ := decided.mp (List.length_eq_zero_iff.mp (Option.some.inj clear))
  cases unwritten.symm.trans renders.columns

end TableDdl.Draft
