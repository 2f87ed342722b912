import TableDdl.Proofs.Draft.Requests
import TableDdl.Proofs.Schema.Latest

/-!
# Requests that are granted

A part of a table is written into a draft by a request that declares it and requests that edit it
at its place. These requests are all granted, and what they leave is the draft with one part more.
-/

namespace TableDdl.Draft

/-- The draft after requests that are granted one after the other, or why one of them is not. -/
def answerAll (d : Draft) (requests : List Request) : Attempt SchemaError Draft :=
  requests.foldlM answer d

variable {d e : Draft}

theorem answerAll_cons (r : Request) (requests : List Request) :
    d.answerAll (r :: requests) = (d.answer r >>= fun e => e.answerAll requests) :=
  List.foldlM_cons

theorem answerAll_append_of_ok {first second : List Request} (granted : d.answerAll first = .ok e) :
    d.answerAll (first ++ second) = e.answerAll second := by
  rw [answerAll, List.foldlM_append]
  have same : first.foldlM answer d = .ok e := granted
  rw [same]
  rfl

theorem WellNamed.answerAll (named : d.WellNamed) {requests : List Request}
    (granted : d.answerAll requests = .ok e) : e.WellNamed :=
  Result.foldlM_keeps (fun _ _ _ named answered => named.answer answered) named granted

/-- An edit at the place of the last item of a list edits that item. -/
theorem modify_length_concat {α : Type} (items : List α) (x : α) (f : α → α) :
    (items ++ [x]).modify items.length f = items ++ [f x] := by
  induction items with
  | nil => rfl
  | cons y rest ih => exact congrArg (y :: ·) ih

/-- Edits of one part, each of which is granted, leave the part as they leave it one by one. -/
theorem answerAll_edits {α ε : Type} {request : ε → Request} {edit : α → ε → α}
    (holding : α → Draft)
    (step : ∀ x e, (holding x).answer (request e) = .ok (holding (edit x e))) (x : α)
    (edits : List ε) :
    (holding x).answerAll (edits.map request) = .ok (holding (edits.foldl edit x)) := by
  induction edits generalizing x with
  | nil => rfl
  | cons e rest ih =>
    rw [List.map_cons, answerAll_cons, step]
    exact ih (edit x e)

/-- A column that is declared and then edited stands under its name as the edits leave it. -/
theorem answerAll_declare {name : Value} {key : Key} (called : name.key = .ok key)
    (edits : List ColumnEdit) :
    d.answerAll (.declare name :: edits.map (.editColumn d.columns.length)) =
      .ok { d with columns := d.columns ++ [Column.editAll { name } edits]
                   names := d.names.insert key name d.columns.length } := by
  rw [answerAll_cons, answer_declare_eq_ok_iff.mpr ⟨key, called, rfl⟩, Result.ok_bind]
  refine answerAll_edits
    (fun c => { d with columns := d.columns ++ [c]
                       names := d.names.insert key name d.columns.length })
    (fun c e => ?_) ({ name } : Column) edits
  rw [answer, editColumn, modify_length_concat]
  rfl

theorem answerAll_addIndex {column keyName : Value} {i : Index}
    (built : Index.of column keyName = .ok i) (edits : List IndexEdit) :
    d.answerAll (.addIndex column keyName :: edits.map (.editIndex d.indexes.length)) =
      .ok { d with indexes := d.indexes ++ [i.editAll edits] } := by
  rw [answerAll_cons, answer_addIndex_eq_ok_iff.mpr ⟨i, built, rfl⟩, Result.ok_bind]
  refine answerAll_edits (fun i => { d with indexes := d.indexes ++ [i] }) (fun i e => ?_) i edits
  rw [answer, editIndex, modify_length_concat]
  rfl

theorem answerAll_addForeignKey {column keyName : Value} {fk : ForeignKey}
    (built : ForeignKey.of column keyName = .ok fk) (edits : List ForeignKeyEdit) :
    d.answerAll
        (.addForeignKey column keyName :: edits.map (.editForeignKey d.foreignKeys.length)) =
      .ok { d with foreignKeys := d.foreignKeys ++ [fk.editAll edits] } := by
  rw [answerAll_cons, answer_addForeignKey_eq_ok_iff.mpr ⟨fk, built, rfl⟩, Result.ok_bind]
  refine answerAll_edits (fun fk => { d with foreignKeys := d.foreignKeys ++ [fk] })
    (fun fk e => ?_) fk edits
  rw [answer, editForeignKey, modify_length_concat]
  rfl

/-- In the schema a declared column stands under its name, and all else is as it was. -/
theorem schema_declare (named : d.WellNamed) (key : Key) (name : Value) (c : Column) :
    schema { d with columns := d.columns ++ [c]
                    names := d.names.insert key name d.columns.length } =
      { d.schema with columns := d.schema.columns.insert key name c } := by
  have columns : (d.names.insert key name d.columns.length).map
      (columnAt { d with columns := d.columns ++ [c]
                         names := d.names.insert key name d.columns.length }) =
      (d.names.map d.columnAt).insert key name c := by
    rw [NameMap.map_insert, columnAt_length]
    congr 1
    exact NameMap.map_congr fun e member => columnAt_append (named.placed e member) c _
  exact congrArg (fun columns => { d.schema with columns }) columns

end TableDdl.Draft
