import TableDdl.Proofs.Schema.Named
import TableDdl.Schema.Draft

/-!
# Requests to a draft

A draft is written by requests, one after the other. A request that is refused leaves the draft as
it was. In every draft that is written this way each name leads to the place of a column of that
name, so the schema has every column under its own name.
-/

namespace TableDdl.Draft

/-- A request to a draft. -/
inductive Request where
  | setPrefix (tablePrefix : Value)
  | declare (name : Value)
  | find (name : Value)
  | remove (name : Value)
  | addIndex (column keyName : Value)
  | addForeignKey (column keyName : Value)
  | editColumn (place : Nat) (e : ColumnEdit)
  | editIndex (place : Nat) (e : IndexEdit)
  | editForeignKey (place : Nat) (e : ForeignKeyEdit)

/-- The draft after a request that is granted, or why it is not. -/
def answer (d : Draft) : Request → Attempt SchemaError Draft
  | .setPrefix tablePrefix => return d.setPrefix tablePrefix
  | .declare name => do return (← d.declare name).1
  | .find name => do
    let _ ← d.find name
    return d
  | .remove name => d.remove name
  | .addIndex column keyName => do return (← d.addIndex column keyName).1
  | .addForeignKey column keyName => do return (← d.addForeignKey column keyName).1
  | .editColumn place e => return d.editColumn place e
  | .editIndex place e => return d.editIndex place e
  | .editForeignKey place e => return d.editForeignKey place e

/-- The draft after a request. -/
def serve (d : Draft) (r : Request) : Draft :=
  match d.answer r with
  | .ok e => e
  | .error _ => d

/-- The draft after requests, one after the other. -/
def serveAll (d : Draft) (requests : List Request) : Draft :=
  requests.foldl serve d

variable {d e : Draft}

/-- What every granted request keeps, all requests keep. -/
theorem serveAll_keeps {P : Draft → Prop} {requests : List Request}
    (step : ∀ d, ∀ r ∈ requests, ∀ e, P d → d.answer r = .ok e → P e) (start : P d) :
    P (d.serveAll requests) := by
  induction requests generalizing d with
  | nil => exact start
  | cons r rest ih =>
    have served : P (d.serve r) := by
      unfold serve
      cases answered : d.answer r with
      | ok e => exact step d r List.mem_cons_self e start answered
      | error _ => exact start
    exact ih (fun d r member => step d r (List.mem_cons_of_mem _ member)) served

theorem answer_declare_eq_ok_iff {name : Value} :
    d.answer (.declare name) = .ok e ↔
      ∃ key, name.key = .ok key ∧
        e = { d with columns := d.columns ++ [{ name }]
                     names := d.names.insert key name d.columns.length } := by
  simp only [answer, declare, Result.liftM_eq_ofFault, Result.bind_eq_ok_iff,
    Result.ofFault_eq_ok_iff, Result.pure_eq_ok, Except.ok.injEq]
  constructor
  · rintro ⟨_, ⟨key, called, rfl⟩, rfl⟩
    exact ⟨key, called, rfl⟩
  · rintro ⟨key, called, rfl⟩
    exact ⟨_, ⟨key, called, rfl⟩, rfl⟩

theorem eq_of_answer_find {name : Value} (answered : d.answer (.find name) = .ok e) : e = d := by
  obtain ⟨place, -, same⟩ := Result.bind_eq_ok_iff.mp answered
  exact (Except.ok.inj same).symm

theorem answer_remove_eq_ok_iff {name : Value} :
    d.answer (.remove name) = .ok e ↔
      ∃ key, name.key = .ok key ∧ d.names.contains key = true ∧
        e = { d with names := d.names.erase key } := by
  simp only [answer, remove, Result.liftM_eq_ofFault, Result.bind_eq_ok_iff,
    Result.ofFault_eq_ok_iff]
  refine exists_congr fun key => and_congr_right fun _ => ?_
  cases d.names.contains key with
  | true => simp [eq_comm]
  | false => simp [Result.bind_eq_ok_iff]

theorem answer_addIndex_eq_ok_iff {column keyName : Value} :
    d.answer (.addIndex column keyName) = .ok e ↔
      ∃ i, Index.of column keyName = .ok i ∧ e = { d with indexes := d.indexes ++ [i] } := by
  simp only [answer, addIndex, Result.liftM_eq_ofFault, Result.bind_eq_ok_iff,
    Result.ofFault_eq_ok_iff, Result.pure_eq_ok, Except.ok.injEq]
  constructor
  · rintro ⟨_, ⟨i, built, rfl⟩, rfl⟩
    exact ⟨i, built, rfl⟩
  · rintro ⟨i, built, rfl⟩
    exact ⟨_, ⟨i, built, rfl⟩, rfl⟩

theorem answer_addForeignKey_eq_ok_iff {column keyName : Value} :
    d.answer (.addForeignKey column keyName) = .ok e ↔
      ∃ fk, ForeignKey.of column keyName = .ok fk ∧
        e = { d with foreignKeys := d.foreignKeys ++ [fk] } := by
  simp only [answer, addForeignKey, Result.liftM_eq_ofFault, Result.bind_eq_ok_iff,
    Result.ofFault_eq_ok_iff, Result.pure_eq_ok, Except.ok.injEq]
  constructor
  · rintro ⟨_, ⟨fk, built, rfl⟩, rfl⟩
    exact ⟨fk, built, rfl⟩
  · rintro ⟨fk, built, rfl⟩
    exact ⟨_, ⟨fk, built, rfl⟩, rfl⟩

/-- The column at a place. -/
def columnAt (d : Draft) (place : Nat) : Column :=
  (d.columns[place]?).getD default

theorem columns_schema (d : Draft) : d.schema.columns = d.names.map d.columnAt := rfl

theorem columnList_schema (d : Draft) : d.schema.columnList = d.names.items.map d.columnAt := by
  rw [Schema.columnList, columns_schema, NameMap.items_map]

theorem getElem?_columns {place : Nat} (there : place < d.columns.length) :
    d.columns[place]? = some (d.columnAt place) := by
  rw [columnAt, List.getElem?_eq_getElem there, Option.getD_some]

/-- Every name leads to the place of a column of that name. -/
structure WellNamed (d : Draft) : Prop where
  placed : ∀ e ∈ d.names.entries, e.item < d.columns.length
  named : d.names.WellNamed fun place => (d.columnAt place).name

theorem columnAt_append {place : Nat} (there : place < d.columns.length) (c : Column)
    (names : NameMap Nat) :
    columnAt { d with columns := d.columns ++ [c], names } place = d.columnAt place := by
  unfold columnAt
  rw [List.getElem?_append_left there]

theorem columnAt_length (d : Draft) (c : Column) (names : NameMap Nat) :
    columnAt { d with columns := d.columns ++ [c], names } d.columns.length = c := by
  simp [columnAt]

/-- An edit of a column leaves the names of all columns as they are. -/
theorem columnAt_editColumn_name (d : Draft) (place other : Nat) (edit : ColumnEdit) :
    ((d.editColumn place edit).columnAt other).name = (d.columnAt other).name := by
  unfold columnAt editColumn
  rw [List.getElem?_modify]
  by_cases same : place = other
  · cases d.columns[other]? <;> simp [same]
  · simp [same]

namespace WellNamed

theorem of_no_names (none : d.names = NameMap.empty) : d.WellNamed := by
  constructor
  · rw [none]
    intro e member
    cases member
  · rw [none]
    exact NameMap.WellNamed.empty

theorem declare (named : d.WellNamed) {key : Key} {name : Value} (called : name.key = .ok key) :
    WellNamed { d with columns := d.columns ++ [{ name }]
                       names := d.names.insert key name d.columns.length } := by
  constructor
  · intro e member
    rw [List.length_append, List.length_singleton]
    rcases NameMap.mem_insertEntry member with old | rfl | ⟨old, -, -, rfl⟩
    · have there := named.placed e old
      omega
    · exact Nat.lt_succ_self _
    · exact Nat.lt_succ_self _
  · -- The places of the old entries are looked up in the longer list of columns.
    have kept : d.names.WellNamed fun place =>
        (columnAt { d with columns := d.columns ++ [{ name }]
                           names := d.names.insert key name d.columns.length } place).name := by
      intro e member
      dsimp only
      rw [columnAt_append (named.placed e member)]
      exact named.named e member
    apply kept.insert called
    rw [columnAt_length]
    exact called

theorem remove (named : d.WellNamed) (key : Key) :
    WellNamed { d with names := d.names.erase key } := by
  constructor
  · intro e member
    exact named.placed e (List.mem_of_mem_filter member)
  · exact named.named.erase key

theorem editColumn (named : d.WellNamed) (place : Nat) (edit : ColumnEdit) :
    (d.editColumn place edit).WellNamed := by
  constructor
  · intro e member
    have there := named.placed e member
    rwa [Draft.editColumn, List.length_modify]
  · intro e member
    dsimp only
    rw [columnAt_editColumn_name]
    exact named.named e member

theorem answer (named : d.WellNamed) {r : Request} (answered : d.answer r = .ok e) :
    e.WellNamed := by
  cases r with
  | declare name =>
    obtain ⟨key, called, rfl⟩ := answer_declare_eq_ok_iff.mp answered
    exact named.declare called
  | find name => exact eq_of_answer_find answered ▸ named
  | remove name =>
    obtain ⟨key, -, -, rfl⟩ := answer_remove_eq_ok_iff.mp answered
    exact named.remove key
  | addIndex column keyName =>
    obtain ⟨i, -, rfl⟩ := answer_addIndex_eq_ok_iff.mp answered
    exact ⟨named.placed, named.named⟩
  | addForeignKey column keyName =>
    obtain ⟨fk, -, rfl⟩ := answer_addForeignKey_eq_ok_iff.mp answered
    exact ⟨named.placed, named.named⟩
  | editColumn place edit =>
    cases answered
    exact named.editColumn place edit
  | setPrefix _ | editIndex _ _ | editForeignKey _ _ =>
    cases answered
    exact ⟨named.placed, named.named⟩

/-- The names of a draft lead to their columns after any requests. -/
theorem serveAll (named : d.WellNamed) (requests : List Request) :
    (d.serveAll requests).WellNamed :=
  serveAll_keeps (fun _ _ _ _ named answered => named.answer answered) named

theorem schema (named : d.WellNamed) : d.schema.WellNamed :=
  named.named.map

/-- Every column of the schema was declared in the draft. -/
theorem mem_columns_of_mem_columnList (named : d.WellNamed) {c : Column}
    (member : c ∈ d.schema.columnList) : c ∈ d.columns := by
  rw [columnList_schema] at member
  obtain ⟨place, listed, rfl⟩ := List.mem_map.mp member
  obtain ⟨e, there, rfl⟩ := List.mem_map.mp listed
  exact List.mem_of_getElem? (getElem?_columns (named.placed e there))

end WellNamed

end TableDdl.Draft
