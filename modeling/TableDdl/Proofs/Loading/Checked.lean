import TableDdl.Proofs.Ddl.Rendering
import TableDdl.Proofs.Loading.Parts
import TableDdl.Proofs.Validation

/-!
# What the checks promise

The checks of a schema are to come to an end, and a schema that they let through is to be written
with a clause for every column that its keys name. A description is free to use any value as a
name, and the checks compare names by their keys while the clauses put them down as texts, so for
a schema that was read the promise is not kept by the checks alone: which names have to be texts,
and which have to be spelled alike, is said here.
-/

namespace TableDdl

open Ddl

/-- Every column that a key names has a clause of its own. -/
def Ddl.Outline.IsClosed (o : Outline) : Prop :=
  ∀ column ∈ o.keyColumns, column ∈ o.columns.map (·.name)

namespace Schema

variable {s : Schema}

/-- The checks come to an end, and a schema without issues is written, with a clause for every
column that its keys name. -/
def ChecksSuffice (s : Schema) : Prop :=
  ∃ found, s.issues = .ok found ∧
    (found = [] → (∃ texts, s.clauses = .ok texts) ∧ ∃ o, s.outline = .ok o ∧ o.IsClosed)

/-- The value is written as the name of a column is. -/
def Spells (s : Schema) (v : Value) : Prop :=
  ∃ name, v.text = .ok name ∧ ∃ c ∈ s.columnList, c.name.text = .ok name

/-- What the checks leave open, for a schema to be written with a clause for every column that its
keys name. -/
structure Renderable (s : Schema) : Prop where
  columns : ∀ c ∈ s.columnList, c.name.Writable ∧ c.WritableSizes
  primary : ∀ i ∈ s.primaryEntries, s.Spells i.column
  secondary : ∀ i ∈ s.secondaryEntries, i.keyName.Nameable ∧ i.column.isText = true
  indexNames : ∀ groups, s.indexGroups = .ok groups → ∀ g ∈ groups, g.keyName.Writable
  tied : ∀ fk ∈ s.foreignKeys, s.Spells fk.column
  foreignKeys : ∀ fk ∈ s.foreignKeys, fk.keyName.Writable ∧ fk.referenceTable.Writable ∧
    fk.referenceColumn.Writable ∧ fk.onUpdate.Writable ∧ fk.onDelete.Writable

/-- A column that is given as a text and is there is written as its name is. -/
theorem WellNamed.spells_of_hasColumn (named : s.WellNamed) {v : Value} (text : v.isText = true)
    (known : s.hasColumn v = .ok true) : s.Spells v := by
  obtain ⟨name, rfl⟩ := Value.isText_iff.mp text
  obtain ⟨c, member, own⟩ := named.hasColumn_str_iff_named.mp known
  exact ⟨name, rfl, c, member, by rw [own, Value.text_str]⟩

theorem isClosed_iff {o : Outline} (outlined : s.outline = .ok o) :
    o.IsClosed ↔ (∀ i ∈ s.indexes, ∀ name, i.column.text = .ok name → s.Spells i.column) ∧
      ∀ fk ∈ s.foreignKeys, ∀ name, fk.column.text = .ok name → s.Spells fk.column := by
  have spelled {v : Value} {name : String} (written : v.text = .ok name) :
      s.Spells v ↔ name ∈ o.columns.map (·.name) := by
    rw [mem_columnNames_outline outlined]
    constructor
    · rintro ⟨other, same, listed⟩
      cases same.symm.trans written
      exact listed
    · intro listed
      exact ⟨name, written, listed⟩
  unfold Outline.IsClosed
  simp only [mem_keyColumns_outline outlined]
  constructor
  · intro closed
    constructor
    · intro i member name written
      exact (spelled written).mpr (closed name (.inl ⟨i, member, written⟩))
    · intro fk member name written
      exact (spelled written).mpr (closed name (.inr ⟨fk, member, written⟩))
  · rintro ⟨indexed, tied⟩ column (⟨i, member, written⟩ | ⟨fk, member, written⟩)
    · exact (spelled written).mp (indexed i member column written)
    · exact (spelled written).mp (tied fk member column written)

/-- What is written with closed keys is renderable. -/
theorem renderable_of_clauses {texts : List String} {o : Outline} (written : s.clauses = .ok texts)
    (outlined : s.outline = .ok o) (closed : o.IsClosed) : s.Renderable := by
  obtain ⟨names, primary, ⟨groups, grouped, ofGroups⟩, foreignKeys⟩ :=
    exists_outline_iff.mp ⟨o, outlined⟩
  obtain ⟨-, sized⟩ := exists_clauses_iff.mp ⟨texts, written⟩
  obtain ⟨indexed, tied⟩ := (isClosed_iff outlined).mp closed
  refine ⟨fun c member => ⟨names c member, sized c member⟩, ?_, ?_, ?_, ?_, ?_⟩
  · intro i member
    obtain ⟨name, text⟩ := primary i member
    exact indexed i (List.mem_of_mem_filter member) name text
  · intro i member
    exact ⟨exists_indexGroups_iff.mp ⟨groups, grouped⟩ i member,
      isText_of_mem_secondaryEntries outlined member⟩
  · intro others same g member
    cases grouped.symm.trans same
    exact (ofGroups g member).1
  · intro fk member
    obtain ⟨out, ofKey⟩ := foreignKeys fk member
    exact tied fk member _ (ForeignKey.column_of_outline ofKey)
  · intro fk member
    obtain ⟨keyName, -, others⟩ := ForeignKey.exists_outline_iff.mp (foreignKeys fk member)
    exact ⟨keyName, others⟩

/-- A consistent schema that is renderable is written with closed keys. -/
theorem Renderable.exists_clauses (renderable : s.Renderable) (consistent : s.Consistent)
    (named : s.WellNamed) :
    (∃ texts, s.clauses = .ok texts) ∧ ∃ o, s.outline = .ok o ∧ o.IsClosed := by
  obtain ⟨groups, grouped⟩ :=
    exists_indexGroups_iff.mpr fun i member => (renderable.secondary i member).1
  have texts : ∀ g ∈ groups, ∀ v ∈ g.columns, v.isText = true := by
    intro g member v inside
    obtain ⟨i, entry, rfl⟩ := exists_entry_of_mem_columns grouped member inside
    exact (renderable.secondary i entry).2
  have outlined : ∃ o, s.outline = .ok o := by
    refine exists_outline_iff.mpr ⟨fun c member => (renderable.columns c member).1, ?_,
      ⟨groups, grouped, ?_⟩, ?_⟩
    · intro i member
      obtain ⟨name, written, -⟩ := renderable.primary i member
      exact ⟨name, written⟩
    · intro g member
      exact ⟨renderable.indexNames groups grouped g member, texts g member⟩
    · intro fk member
      obtain ⟨keyName, others⟩ := renderable.foreignKeys fk member
      obtain ⟨name, written, -⟩ := renderable.tied fk member
      exact ForeignKey.exists_outline_iff.mpr ⟨keyName, ⟨name, written⟩, others⟩
  refine ⟨exists_clauses_iff.mpr ⟨outlined, fun c member => (renderable.columns c member).2⟩, ?_⟩
  obtain ⟨o, outlined⟩ := outlined
  refine ⟨o, outlined, (isClosed_iff outlined).mpr ⟨?_, fun fk member _ _ =>
    renderable.tied fk member⟩⟩
  intro i member name written
  rcases mem_indexes_iff.mp member with primary | secondary
  · exact renderable.primary i primary
  · exact named.spells_of_hasColumn (renderable.secondary i secondary).2
      (consistent.indexed i member)

end Schema

namespace Loading

/-- For a schema that was read, the checks suffice exactly if they come to an end and leave
nothing to be desired of a schema that passes them. -/
theorem checksSuffice_iff {v : Value} {s : Schema} (loaded : table v = .ok s) :
    s.ChecksSuffice ↔ s.Checkable ∧ (s.Consistent → s.Renderable) := by
  have named := table_wellNamed loaded
  constructor
  · rintro ⟨found, ended, promise⟩
    refine ⟨Schema.exists_issues_iff.mp ⟨found, ended⟩, fun consistent => ?_⟩
    have none : found = [] :=
      Except.ok.inj (ended.symm.trans (Schema.issues_eq_ok_nil_iff.mpr consistent))
    obtain ⟨⟨texts, written⟩, o, outlined, closed⟩ := promise none
    exact Schema.renderable_of_clauses written outlined closed
  · rintro ⟨checkable, renderable⟩
    obtain ⟨found, ended⟩ := Schema.exists_issues_iff.mpr checkable
    refine ⟨found, ended, ?_⟩
    rintro rfl
    have consistent := Schema.issues_eq_ok_nil_iff.mp ended
    exact (renderable consistent).exists_clauses consistent named

/-- A table with an index on a column whose name is a number. -/
def numberedColumn : Value :=
  .map [(.str "table", .str "t"),
    (.str "columns", .list [.map [(.str "name", .int 1), (.str "type", .str "int")]]),
    (.str "indexes", .list [.map [(.str "column", .int 1)]])]

theorem exists_table_numberedColumn :
    ∃ s, table numberedColumn = .ok s ∧ s.issues.toOption.map (·.length) = some 0 ∧
      s.clauses.toOption = none := by
  have known : (table numberedColumn).toOption.map
      (fun s => (s.issues.toOption.map (·.length), s.clauses.toOption)) =
        some (some 0, none) := by
    decide +kernel
  cases loaded : table numberedColumn with
  | error e =>
    rw [loaded] at known
    cases known
  | ok s =>
    rw [loaded] at known
    exact ⟨s, rfl, Prod.mk.inj (Option.some.inj known)⟩

theorem checksSuffice_iff_numberedColumn :
    ∃ s, table numberedColumn = .ok s ∧
      (s.ChecksSuffice ↔ s.Checkable ∧ (s.Consistent → s.Renderable)) := by
  obtain ⟨s, loaded, -⟩ := exists_table_numberedColumn
  exact ⟨s, loaded, checksSuffice_iff loaded⟩

/-- The number is found among the columns, but it cannot be put into the list of an index. -/
theorem not_checksSuffice_numberedColumn :
    ∃ s, table numberedColumn = .ok s ∧ ¬ s.ChecksSuffice := by
  obtain ⟨s, loaded, passed, failed⟩ := exists_table_numberedColumn
  refine ⟨s, loaded, ?_⟩
  rintro ⟨found, ended, promise⟩
  rw [ended] at passed
  have none : found = [] := List.length_eq_zero_iff.mp (Option.some.inj passed)
  obtain ⟨⟨texts, written⟩, -⟩ := promise none
  rw [written] at failed
  cases failed

end Loading

end TableDdl
