import TableDdl.Proofs.Draft.Requests
import TableDdl.Proofs.Schema.Latest

/-!
# What a request leaves

The draft after each kind of request, whether or not the request is granted. Only requests that
declare something may fail for what they name, and only a request for a column that is not there is
refused.
-/

namespace TableDdl.Draft

variable {d e : Draft}

theorem serve_of_ok {r : Request} (answered : d.answer r = .ok e) : d.serve r = e := by
  rw [serve, answered]

theorem serve_of_error {r : Request} (failure : Failure SchemaError)
    (answered : d.answer r = .error failure) : d.serve r = d := by
  rw [serve, answered]

@[simp] theorem serve_editColumn (place : Nat) (edit : ColumnEdit) :
    d.serve (.editColumn place edit) = d.editColumn place edit := rfl

theorem find_eq_ok_iff {v : Value} {place : Nat} :
    d.find v = .ok place ↔ ∃ key, v.key = .ok key ∧ d.names.find? key = some place := by
  simp only [find, Result.liftM_eq_ofFault, Result.bind_eq_ok_iff, Result.ofFault_eq_ok_iff]
  refine exists_congr fun key => and_congr_right fun _ => ?_
  cases d.names.find? key with
  | none => simp [Result.bind_eq_ok_iff]
  | some other => simp

/-- To ask for a column changes nothing, whether or not it is there. -/
@[simp] theorem serve_find (name : Value) : d.serve (.find name) = d := by
  cases answered : d.answer (.find name) with
  | ok e => rw [serve_of_ok answered, eq_of_answer_find answered]
  | error _ => exact serve_of_error _ answered

theorem serve_declare (name : Value) :
    d.serve (.declare name) =
      match name.key with
      | .ok key => { d with columns := d.columns ++ [{ name }]
                            names := d.names.insert key name d.columns.length }
      | .error _ => d := by
  cases called : name.key with
  | ok key => exact serve_of_ok (answer_declare_eq_ok_iff.mpr ⟨key, called, rfl⟩)
  | error f =>
    apply serve_of_error (.fault f)
    simp [answer, declare, called, Attempt.ofFault]

/-- After a column was to be taken out it is not there, whether or not it was there before. -/
theorem serve_remove (name : Value) :
    d.serve (.remove name) =
      match name.key with
      | .ok key => { d with names := d.names.erase key }
      | .error _ => d := by
  cases called : name.key with
  | ok key =>
    cases present : d.names.contains key with
    | true => exact serve_of_ok (answer_remove_eq_ok_iff.mpr ⟨key, called, present, rfl⟩)
    | false =>
      dsimp only
      rw [NameMap.erase_of_not_contains present]
      cases answered : d.answer (.remove name) with
      | error _ => exact serve_of_error _ answered
      | ok e =>
        obtain ⟨other, called', present', -⟩ := answer_remove_eq_ok_iff.mp answered
        rw [called] at called'
        cases called'
        cases present.symm.trans present'
  | error f =>
    apply serve_of_error (.fault f)
    simp [answer, remove, called, Attempt.ofFault]

theorem serve_addIndex (column keyName : Value) :
    d.serve (.addIndex column keyName) =
      match Index.of column keyName with
      | .ok i => { d with indexes := d.indexes ++ [i] }
      | .error _ => d := by
  cases built : Index.of column keyName with
  | ok i => exact serve_of_ok (answer_addIndex_eq_ok_iff.mpr ⟨i, built, rfl⟩)
  | error f =>
    apply serve_of_error (.fault f)
    simp [answer, addIndex, built, Attempt.ofFault]

theorem serve_addForeignKey (column keyName : Value) :
    d.serve (.addForeignKey column keyName) =
      match ForeignKey.of column keyName with
      | .ok fk => { d with foreignKeys := d.foreignKeys ++ [fk] }
      | .error _ => d := by
  cases built : ForeignKey.of column keyName with
  | ok fk => exact serve_of_ok (answer_addForeignKey_eq_ok_iff.mpr ⟨fk, built, rfl⟩)
  | error f =>
    apply serve_of_error (.fault f)
    simp [answer, addForeignKey, built, Attempt.ofFault]

theorem serveAll_append (d : Draft) (first later : List Request) :
    d.serveAll (first ++ later) = (d.serveAll first).serveAll later :=
  List.foldl_append

theorem serveAll_concat (d : Draft) (requests : List Request) (r : Request) :
    d.serveAll (requests ++ [r]) = (d.serveAll requests).serve r :=
  serveAll_append d requests [r]

end TableDdl.Draft
