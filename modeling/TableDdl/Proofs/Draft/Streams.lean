import TableDdl.Ddl.Clause
import TableDdl.Proofs.Draft.Served
import TableDdl.Proofs.Draft.Textual

/-!
# Streams of requests

The requests to a draft fall into four streams: about its columns, its index entries, its foreign
keys, and what is put in front of its name. A request reads and changes the part of the draft that
its stream is about, and no other. So it does not matter how the streams are interleaved.
-/

namespace TableDdl.Draft

/-- What a request is about. -/
inductive Stream where
  | columns
  | indexes
  | foreignKeys
  | tablePrefix
  deriving DecidableEq

/-- The stream that a request belongs to. -/
def Request.stream : Request → Stream
  | .declare _ | .find _ | .remove _ | .editColumn _ _ => .columns
  | .addIndex _ _ | .editIndex _ _ => .indexes
  | .addForeignKey _ _ | .editForeignKey _ _ => .foreignKeys
  | .setPrefix _ => .tablePrefix

/-- The requests of a stream, in order. -/
def restrict (stream : Stream) (requests : List Request) : List Request :=
  requests.filter (·.stream = stream)

/-- The part of a draft that a stream is about, as a draft without the other parts. -/
def part (d : Draft) : Stream → Draft
  | .columns => { baseName := .null, columns := d.columns, names := d.names }
  | .indexes => { baseName := .null, indexes := d.indexes }
  | .foreignKeys => { baseName := .null, foreignKeys := d.foreignKeys }
  | .tablePrefix => { baseName := .null, tablePrefix := d.tablePrefix }

variable {d e : Draft} {stream : Stream} {r : Request}

/-- A draft is made up of its name and its parts. -/
theorem eq_of_parts (named : d.baseName = e.baseName)
    (same : ∀ stream, d.part stream = e.part stream) : d = e := by
  have columns := congrArg Draft.columns (same .columns)
  have names := congrArg Draft.names (same .columns)
  have indexes := congrArg Draft.indexes (same .indexes)
  have foreignKeys := congrArg Draft.foreignKeys (same .foreignKeys)
  have tablePrefix := congrArg Draft.tablePrefix (same .tablePrefix)
  cases d
  cases e
  simp_all [part]

/-- No request changes the name of the table. -/
theorem baseName_serve (d : Draft) (r : Request) : (d.serve r).baseName = d.baseName := by
  cases r with
  | declare name => rw [serve_declare]; cases name.key <;> rfl
  | remove name => rw [serve_remove]; cases name.key <;> rfl
  | addIndex column keyName => rw [serve_addIndex]; cases Index.of column keyName <;> rfl
  | addForeignKey column keyName =>
    rw [serve_addForeignKey]; cases ForeignKey.of column keyName <;> rfl
  | find name => rw [serve_find]
  | setPrefix _ | editColumn _ _ | editIndex _ _ | editForeignKey _ _ => rfl

theorem baseName_serveAll (d : Draft) (requests : List Request) :
    (d.serveAll requests).baseName = d.baseName := by
  induction requests generalizing d with
  | nil => rfl
  | cons r rest ih => exact (ih (d.serve r)).trans (baseName_serve d r)

/-- A request changes the part that its stream is about as if there were no other part. -/
theorem part_serve (d : Draft) (r : Request) :
    (d.serve r).part r.stream = (d.part r.stream).serve r := by
  cases r with
  | declare name => rw [serve_declare, serve_declare]; cases name.key <;> rfl
  | remove name => rw [serve_remove, serve_remove]; cases name.key <;> rfl
  | addIndex column keyName =>
    rw [serve_addIndex, serve_addIndex]; cases Index.of column keyName <;> rfl
  | addForeignKey column keyName =>
    rw [serve_addForeignKey, serve_addForeignKey]; cases ForeignKey.of column keyName <;> rfl
  | find name => rw [serve_find, serve_find]
  | setPrefix _ | editColumn _ _ | editIndex _ _ | editForeignKey _ _ => rfl

/-- A request leaves the parts of the other streams as they are. -/
theorem part_serve_of_ne (d : Draft) (other : r.stream ≠ stream) :
    (d.serve r).part stream = d.part stream := by
  cases r with
  | declare name =>
    rw [serve_declare]
    cases stream with
    | columns => exact absurd rfl other
    | indexes | foreignKeys | tablePrefix => cases name.key <;> rfl
  | remove name =>
    rw [serve_remove]
    cases stream with
    | columns => exact absurd rfl other
    | indexes | foreignKeys | tablePrefix => cases name.key <;> rfl
  | find name => rw [serve_find]
  | editColumn place edit =>
    cases stream with
    | columns => exact absurd rfl other
    | indexes | foreignKeys | tablePrefix => rfl
  | addIndex column keyName =>
    rw [serve_addIndex]
    cases stream with
    | indexes => exact absurd rfl other
    | columns | foreignKeys | tablePrefix => cases Index.of column keyName <;> rfl
  | editIndex place edit =>
    cases stream with
    | indexes => exact absurd rfl other
    | columns | foreignKeys | tablePrefix => rfl
  | addForeignKey column keyName =>
    rw [serve_addForeignKey]
    cases stream with
    | foreignKeys => exact absurd rfl other
    | columns | indexes | tablePrefix => cases ForeignKey.of column keyName <;> rfl
  | editForeignKey place edit =>
    cases stream with
    | foreignKeys => exact absurd rfl other
    | columns | indexes | tablePrefix => rfl
  | setPrefix tablePrefix =>
    cases stream with
    | tablePrefix => exact absurd rfl other
    | columns | indexes | foreignKeys => rfl

/-- After requests, each part of a draft is what the requests of its stream make of it. -/
theorem part_serveAll (d : Draft) (stream : Stream) (requests : List Request) :
    (d.serveAll requests).part stream = (d.part stream).serveAll (restrict stream requests) := by
  induction requests generalizing d with
  | nil => rfl
  | cons r rest ih =>
    have later := ih (d.serve r)
    by_cases own : r.stream = stream
    · have first : (d.serve r).part stream = (d.part stream).serve r := own ▸ part_serve d r
      have kept : restrict stream (r :: rest) = r :: restrict stream rest := by
        simp [restrict, own]
      rw [kept]
      rw [first] at later
      exact later
    · have first := part_serve_of_ne d own
      have skipped : restrict stream (r :: rest) = restrict stream rest := by
        simp [restrict, own]
      rw [skipped]
      rw [first] at later
      exact later

/-- Requests that agree stream by stream leave the same draft. -/
theorem serveAll_eq_of_restrict (d : Draft) {first second : List Request}
    (same : ∀ stream, restrict stream first = restrict stream second) :
    d.serveAll first = d.serveAll second := by
  apply eq_of_parts
  · rw [baseName_serveAll, baseName_serveAll]
  · intro stream
    rw [part_serveAll, part_serveAll, same]

/-- However the requests about columns, index entries, foreign keys and the prefix are interleaved,
they write the same schema, which is called by the same name, has the same columns, index entries
and foreign keys, the same issues in the same order and the same clauses. -/
theorem written_interleaved (name : Value) {first second : List Request}
    (same : ∀ stream, restrict stream first = restrict stream second) :
    written name first = written name second ∧
      (written name first).tableName = (written name second).tableName ∧
      (written name first).columnList = (written name second).columnList ∧
      (written name first).indexes = (written name second).indexes ∧
      (written name first).foreignKeys = (written name second).foreignKeys ∧
      (written name first).issues = (written name second).issues ∧
      (written name first).clauses = (written name second).clauses := by
  have equal : written name first = written name second := by
    rw [written, serveAll_eq_of_restrict _ same, written]
  refine ⟨equal, ?_, ?_, ?_, ?_, ?_, ?_⟩ <;> rw [equal]

/-- Requests for a table with one key, in which the key comes before the column that it is on, a
column that is not there is asked for and taken out, and the prefix comes last. -/
def keyFirst : List Request :=
  [.addIndex (.str "id") .null, .editIndex 0 (.primary true), .find (.str "id"),
    .remove (.str "name"), .declare (.str "id"), .editColumn 0 (.int none),
    .setPrefix (.str "app_")]

/-- The same requests, in which the prefix and the column come before the key. -/
def columnFirst : List Request :=
  [.setPrefix (.str "app_"), .find (.str "id"), .remove (.str "name"), .declare (.str "id"),
    .addIndex (.str "id") .null, .editColumn 0 (.int none), .editIndex 0 (.primary true)]

theorem written_interleaved_keyFirst :
    (∀ stream, restrict stream keyFirst = restrict stream columnFirst) ∧
      written (.str "pets") keyFirst = written (.str "pets") columnFirst := by
  have same : ∀ stream, restrict stream keyFirst = restrict stream columnFirst := by
    intro stream
    cases stream <;> rfl
  exact ⟨same, (written_interleaved (.str "pets") same).1⟩

end TableDdl.Draft
