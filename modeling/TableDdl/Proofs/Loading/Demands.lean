import TableDdl.Proofs.Loading.Described
import TableDdl.Proofs.Loading.Fields
import TableDdl.Proofs.Loading.Parts

/-!
# What a table description demands

The demands of a table description, in the order in which they are looked at: those of the mapping
itself, then those of its columns, of its index entries and of its foreign keys. Each of them is
said about the values that the description holds. The main statement is that reading a description
ends as its demands say.
-/

namespace TableDdl.Loading

open Demand (silent)

/-- The value that names the kind of an index entry. -/
def kindOf (entries : List (Value × Value)) : Value :=
  (Value.field? entries "kind").getD (.str "plain")

/-- The value is the name of a kind of indexes. -/
def NamesKind (v : Value) : Prop :=
  ∃ word kind, v.text = .ok word ∧ kindOfWord? (Text.lower word) = some kind

/-- What the description of a column demands. The condition says whether the name of the table can
be written. -/
def columnDemands (named : Prop) (v : Value) : List Demand :=
  let field := Value.field v.entries
  [describes .column v, ⟨(field "name").isTruthy = true, named⟩, silent (field "name").Nameable,
    silent (field "type").Writable, sizeDemand (field "name") (field "length"),
    sizeDemand (field "name") (field "precision"), silent (field "default").Writable]

/-- What the description of an index entry demands. -/
def indexDemands (named : Prop) (v : Value) : List Demand :=
  let field := Value.field v.entries
  [describes .index v, ⟨(field "column").isTruthy = true, named⟩,
    silent (kindOf v.entries).Writable,
    ⟨NamesKind (kindOf v.entries), (field "column").Writable⟩,
    silent ((field "key_name").isTruthy = false → (field "column").Writable)]

/-- What the description of a foreign key demands. -/
def foreignKeyDemands (named : Prop) (v : Value) : List Demand :=
  let field := Value.field v.entries
  [describes .foreignKey v, ⟨(field "column").isTruthy = true, named⟩,
    silent ((field "key_name").isTruthy = false → (field "column").Writable)]

/-- What a list of parts demands: that it can be gone through, and then what each part does. -/
def partsDemands (each : Value → List Demand) (v : Value) : List Demand :=
  silent (v.isTruthy = true → v.isCollection = true) :: (parts v).flatMap each

/-- The name of the table that a description gives can be written, with what is put in front. -/
def IsNamed (entries : List (Value × Value)) : Prop :=
  (Value.field entries "prefix").Writable ∧ (Value.field entries "table").Writable

/-- What the description of a table demands. -/
def tableDemands (v : Value) : List Demand :=
  let field := Value.field v.entries
  let named := IsNamed v.entries
  describes .table v :: ⟨(field "table").isTruthy = true, True⟩ ::
    (partsDemands (columnDemands named) (field "columns") ++
      (partsDemands (indexDemands named) (field "indexes") ++
        partsDemands (foreignKeyDemands named) (field "foreign_keys")))

section Parts

variable {s t : Schema} {v : Value}

theorem given?_eq_some_iff {name : Value} :
    v.given? = some name ↔ v.isTruthy = true ∧ v = name := by
  unfold Value.given?
  split <;> simp_all

/-- A reader that looks at a given field refuses the description without it, if the name of the
table can be written. -/
theorem given_decides {ε α : Type} {demands : List Demand} {x : Except Fault String}
    {reason : String → ε} {found : Value → Attempt ε α}
    (next : v.isTruthy = true → Decides demands (found v)) :
    Decides (⟨v.isTruthy = true, ∃ name, x = .ok name⟩ :: demands)
      (match v.given? with
        | none => Attempt.ofFault x >>= fun name => refuse (reason name)
        | some name => found name) := by
  refine .cons (fun given => ?_) fun absent => ?_
  · rw [given?_eq_some_iff.mpr ⟨given, rfl⟩]
    exact next given
  · have none : v.given? = none := if_neg absent
    rw [none]
    exact (Reports.lift_bind Iff.rfl fun _ _ => .refuse _).congr (and_iff_left trivial)

theorem columnNamed_decides (entries : List (Value × Value)) (name : Value) :
    Decides
      [silent (Value.field entries "type").Writable,
        sizeDemand name (Value.field entries "length"),
        sizeDemand name (Value.field entries "precision"),
        silent (Value.field entries "default").Writable]
      (columnNamed entries name) := by
  refine .lift_bind Value.exists_given_text_iff fun type _ => ?_
  refine (size?_decides entries .length name).bind fun length _ => ?_
  refine (size?_decides entries .precision name).bind fun precision _ => ?_
  exact .lift_bind Value.exists_nonNull_text_iff fun defaultText _ => .granted _

theorem addColumn_decides (s : Schema) (v : Value) :
    Decides (columnDemands s.IsNamed v) (addColumn s v) := by
  refine (description_decides .column v).bind fun entries described => ?_
  obtain ⟨rfl, -⟩ := description_eq_ok_iff.mp described
  refine given_decides fun _ => .lift_bind Iff.rfl fun key _ => ?_
  exact (columnNamed_decides entries _).bind_ok _

theorem exists_indexOf_iff {column keyName : Value} :
    (∃ i, Index.of column keyName = .ok i) ↔ (keyName.isTruthy = false → column.Writable) := by
  cases given : keyName.isTruthy with
  | true => simp [Index.of, given]
  | false => cases written : column.text <;> simp [Index.of, given, Value.Writable, written]

theorem exists_foreignKeyOf_iff {column keyName : Value} :
    (∃ fk, ForeignKey.of column keyName = .ok fk) ↔
      (keyName.isTruthy = false → column.Writable) := by
  cases given : keyName.isTruthy with
  | true => simp [ForeignKey.of, given]
  | false => cases written : column.text <;> simp [ForeignKey.of, given, Value.Writable, written]

theorem addIndex_decides (s : Schema) (v : Value) :
    Decides (indexDemands s.IsNamed v) (addIndex s v) := by
  refine (description_decides .index v).bind fun entries described => ?_
  obtain ⟨rfl, -⟩ := description_eq_ok_iff.mp described
  refine given_decides fun _ => .lift_bind Iff.rfl fun word written => ?_
  refine .cons ?_ fun unmet => ?_
  · rintro ⟨other, kind, same, found⟩
    cases written.symm.trans same
    dsimp only
    rw [found]
    exact .lift_bind exists_indexOf_iff fun entry _ => .granted _
  · cases found : kindOfWord? (Text.lower word) with
    | some kind => exact absurd ⟨word, kind, written, found⟩ unmet
    | none =>
      dsimp only
      rw [found]
      exact (Reports.lift_bind Iff.rfl fun _ _ => .refuse _).congr (and_iff_left trivial)

theorem addForeignKey_decides (s : Schema) (v : Value) :
    Decides (foreignKeyDemands s.IsNamed v) (addForeignKey s v) := by
  refine (description_decides .foreignKey v).bind fun entries described => ?_
  obtain ⟨rfl, -⟩ := description_eq_ok_iff.mp described
  exact given_decides fun _ => .lift_bind exists_foreignKeyOf_iff fun entry _ => .granted _

/-- Adding a part leaves the name of the table as it is. -/
def KeepsName (add : Schema → Value → Attempt LoadError Schema) : Prop :=
  ∀ s v t, add s v = .ok t → t.tableName = s.tableName

theorem addColumn_keepsName : KeepsName addColumn := by
  intro s v t added
  obtain ⟨key, c, -, rfl⟩ := addColumn_eq_insert added
  rfl

theorem addIndex_keepsName : KeepsName addIndex := by
  intro s v t added
  obtain ⟨i, rfl⟩ := addIndex_eq_append added
  rfl

theorem addForeignKey_keepsName : KeepsName addForeignKey := by
  intro s v t added
  obtain ⟨fk, rfl⟩ := addForeignKey_eq_append added
  rfl

variable {add : Schema → Value → Attempt LoadError Schema} {each : Prop → Value → List Demand}

theorem KeepsName.addParts (keeps : KeepsName add) : KeepsName (addParts add) := by
  intro s v t added
  refine addParts_keeps (P := fun t => t.tableName = s.tableName) ?_ rfl added
  intro t item u same added
  exact (keeps t item u added).trans same

theorem isNamed_congr (same : t.tableName = s.tableName) : t.IsNamed ↔ s.IsNamed := by
  rw [Schema.IsNamed, Schema.IsNamed, same]

/-- Adding parts makes their demands. Those depend on no more of the schema than whether the table
has a name that can be written. -/
theorem addParts_decides (decided : ∀ s v, Decides (each s.IsNamed v) (add s v))
    (keeps : KeepsName add) (s : Schema) (v : Value) :
    Decides (partsDemands (each s.IsNamed) v) (addParts add s v) := by
  refine .lift_bind exists_elements_iff fun items gone => ?_
  rw [parts_of_ok gone]
  refine .foldlM (P := fun t => t.tableName = s.tableName) ?_ ?_ items rfl
  · intro t item same
    rw [← isNamed_congr same]
    exact decided t item
  · intro t item u same added
    exact (keeps t item u added).trans same

end Parts

/-- The name of the table that a description gives, with what is put in front of it. -/
def declaredName (entries : List (Value × Value)) : Except Fault String :=
  Schema.tableName { baseName := Value.field entries "table"
                     tablePrefix := (Value.field entries "prefix").orElse .null }

theorem isNamed_iff_writable (s : Schema) :
    s.IsNamed ↔ (s.hasPrefix = true → s.tablePrefix.Writable) ∧ s.baseName.Writable := by
  unfold Schema.IsNamed Schema.tableName Value.Writable
  cases s.hasPrefix <;> cases s.tablePrefix.text <;> cases s.baseName.text <;> simp

/-- What does not count as given in front of the name is left out. -/
theorem isNamed_iff {entries : List (Value × Value)} :
    Schema.IsNamed { baseName := Value.field entries "table"
                     tablePrefix := (Value.field entries "prefix").orElse .null } ↔
      IsNamed entries := by
  refine (isNamed_iff_writable _).trans (and_congr_left fun _ => ?_)
  cases given : (Value.field entries "prefix").isTruthy with
  | true => simp [Schema.hasPrefix, Value.orElse, given]
  | false => simp [Schema.hasPrefix, Value.orElse, given, Value.writable_of_not_given given]

/-- The parts of a table leave it the name that its description gives. -/
theorem tableName_of_table {v : Value} {s : Schema} (read : table v = .ok s) :
    s.tableName = declaredName v.entries := by
  obtain ⟨entries, described, rest⟩ := Result.bind_eq_ok_iff.mp read
  obtain ⟨rfl, -⟩ := description_eq_ok_iff.mp described
  cases given : (Value.field entries "table").given? with
  | none => simp [given] at rest
  | some name =>
    obtain ⟨-, rfl⟩ := given?_eq_some_iff.mp given
    rw [given] at rest
    obtain ⟨ofColumns, columns, read⟩ := Result.bind_eq_ok_iff.mp rest
    obtain ⟨ofIndexes, indexes, foreignKeys⟩ := Result.bind_eq_ok_iff.mp read
    rw [addForeignKey_keepsName.addParts _ _ _ foreignKeys,
      addIndex_keepsName.addParts _ _ _ indexes, addColumn_keepsName.addParts _ _ _ columns]
    rfl

/-- Reading the description of a table ends as its demands say. -/
theorem table_decides (v : Value) : Decides (tableDemands v) (table v) := by
  refine (description_decides .table v).bind fun entries described => ?_
  obtain ⟨rfl, -⟩ := description_eq_ok_iff.mp described
  refine .cons (fun given => ?_) fun absent => ?_
  · have found : (Value.field entries "table").given? = some (Value.field entries "table") :=
      given?_eq_some_iff.mpr ⟨given, rfl⟩
    rw [found, ← isNamed_iff]
    refine (addParts_decides addColumn_decides addColumn_keepsName _ _).bind fun s columns => ?_
    rw [← isNamed_congr (addColumn_keepsName.addParts _ _ _ columns)]
    refine (addParts_decides addIndex_decides addIndex_keepsName _ _).bind fun t indexes => ?_
    rw [← isNamed_congr (addIndex_keepsName.addParts _ _ _ indexes)]
    exact addParts_decides addForeignKey_decides addForeignKey_keepsName _ _
  · have none : (Value.field entries "table").given? = none := if_neg absent
    rw [none]
    exact .refuse _

end TableDdl.Loading
