import TableDdl.Proofs.Draft.Requests
import TableDdl.Proofs.Schema.Textual

/-!
# Drafts with texts for names

Requests that give texts for names write a schema with texts for names, in whatever order they
come and whichever of them are refused.
-/

namespace TableDdl

open Ddl

/-- The value that an edit of a foreign key writes. -/
def ForeignKeyEdit.value : ForeignKeyEdit → Value
  | .referenceTable table => table
  | .referenceColumn column => column
  | .onUpdate action => action
  | .onDelete action => action

theorem Index.isTextual_of {column keyName : Value} {i : Index} (columnText : column.isText = true)
    (keyText : keyName.isOptionalText = true) (built : Index.of column keyName = .ok i) :
    i.IsTextual := by
  unfold Index.of at built
  split at built
  · rename_i given
    cases built
    exact ⟨Value.isText_of_isOptionalText keyText given, columnText⟩
  · obtain ⟨text, -, built⟩ := Result.bind_eq_ok_iff.mp built
    cases built
    exact ⟨rfl, columnText⟩

theorem Index.IsTextual.edit {i : Index} (textual : i.IsTextual) (e : IndexEdit) :
    (i.edit e).IsTextual := by
  constructor
  · rw [keyName_edit]
    exact textual.keyName
  · rw [column_edit]
    exact textual.column

theorem ForeignKey.isTextual_of {column keyName : Value} {fk : ForeignKey}
    (columnText : column.isText = true) (keyText : keyName.isOptionalText = true)
    (built : ForeignKey.of column keyName = .ok fk) : fk.IsTextual := by
  unfold ForeignKey.of at built
  split at built
  · rename_i given
    cases built
    exact ⟨Value.isText_of_isOptionalText keyText given, columnText, rfl, rfl, rfl, rfl⟩
  · obtain ⟨text, -, built⟩ := Result.bind_eq_ok_iff.mp built
    cases built
    exact ⟨rfl, columnText, rfl, rfl, rfl, rfl⟩

theorem ForeignKey.IsTextual.edit {fk : ForeignKey} (textual : fk.IsTextual) {e : ForeignKeyEdit}
    (text : e.value.isOptionalText = true) : (fk.edit e).IsTextual := by
  obtain ⟨keyName, column, table, other, update, delete⟩ := textual
  cases e with
  | referenceTable _ => exact ⟨keyName, column, text, other, update, delete⟩
  | referenceColumn _ => exact ⟨keyName, column, table, text, update, delete⟩
  | onUpdate _ => exact ⟨keyName, column, table, other, text, delete⟩
  | onDelete _ => exact ⟨keyName, column, table, other, update, text⟩

namespace Draft

/-- Whether the names that a request gives are texts. The name of a key may be left open, and so
may what a foreign key refers to. -/
def Request.isTextual : Request → Bool
  | .declare name | .find name | .remove name => name.isText
  | .addIndex column keyName | .addForeignKey column keyName =>
    column.isText && keyName.isOptionalText
  | .editForeignKey _ e => e.value.isOptionalText
  | .setPrefix _ | .editColumn _ _ | .editIndex _ _ => true

/-- Every name in the draft is a text. -/
structure IsTextual (d : Draft) : Prop where
  columns : ∀ c ∈ d.columns, c.name.isText = true
  indexes : ∀ i ∈ d.indexes, i.IsTextual
  foreignKeys : ∀ fk ∈ d.foreignKeys, fk.IsTextual

theorem forall_mem_modify {α : Type} {P : α → Prop} {f : α → α} {items : List α}
    (all : ∀ x ∈ items, P x) (kept : ∀ x, P x → P (f x)) (place : Nat) :
    ∀ x ∈ items.modify place f, P x := by
  intro x member
  obtain ⟨other, found⟩ := List.mem_iff_getElem?.mp member
  rw [List.getElem?_modify] at found
  obtain ⟨old, there, rfl⟩ := Option.map_eq_some_iff.mp found
  have holds := all old (List.mem_of_getElem? there)
  by_cases same : place = other
  · rw [if_pos same]
    exact kept old holds
  · rw [if_neg same]
    exact holds

theorem forall_mem_append_singleton {α : Type} {P : α → Prop} {items : List α} {x : α}
    (all : ∀ y ∈ items, P y) (last : P x) : ∀ y ∈ items ++ [x], P y := by
  intro y member
  rcases List.mem_append.mp member with old | new
  · exact all y old
  · exact List.mem_singleton.mp new ▸ last

namespace IsTextual

variable {d e : Draft}

theorem answer (textual : d.IsTextual) {r : Request} (asked : r.isTextual = true)
    (answered : d.answer r = .ok e) : e.IsTextual := by
  obtain ⟨columns, indexes, foreignKeys⟩ := textual
  cases r with
  | declare name =>
    obtain ⟨key, -, rfl⟩ := answer_declare_eq_ok_iff.mp answered
    exact ⟨forall_mem_append_singleton columns asked, indexes, foreignKeys⟩
  | find name => exact eq_of_answer_find answered ▸ ⟨columns, indexes, foreignKeys⟩
  | remove name =>
    obtain ⟨key, -, -, rfl⟩ := answer_remove_eq_ok_iff.mp answered
    exact ⟨columns, indexes, foreignKeys⟩
  | addIndex column keyName =>
    obtain ⟨i, built, rfl⟩ := answer_addIndex_eq_ok_iff.mp answered
    obtain ⟨columnText, keyText⟩ := Bool.and_eq_true_iff.mp asked
    have entry := Index.isTextual_of columnText keyText built
    exact ⟨columns, forall_mem_append_singleton indexes entry, foreignKeys⟩
  | addForeignKey column keyName =>
    obtain ⟨fk, built, rfl⟩ := answer_addForeignKey_eq_ok_iff.mp answered
    obtain ⟨columnText, keyText⟩ := Bool.and_eq_true_iff.mp asked
    have key := ForeignKey.isTextual_of columnText keyText built
    exact ⟨columns, indexes, forall_mem_append_singleton foreignKeys key⟩
  | editColumn place edit =>
    cases answered
    refine ⟨forall_mem_modify columns (fun c text => ?_) place, indexes, foreignKeys⟩
    rwa [Column.name_edit]
  | editIndex place edit =>
    cases answered
    exact ⟨columns, forall_mem_modify indexes (fun i text => text.edit edit) place, foreignKeys⟩
  | editForeignKey place edit =>
    cases answered
    exact ⟨columns, indexes, forall_mem_modify foreignKeys (fun fk text => text.edit asked) place⟩
  | setPrefix _ =>
    cases answered
    exact ⟨columns, indexes, foreignKeys⟩

theorem serveAll (textual : d.IsTextual) {requests : List Request}
    (asked : ∀ r ∈ requests, r.isTextual = true) : (d.serveAll requests).IsTextual :=
  serveAll_keeps (fun _ r member _ textual answered => textual.answer (asked r member) answered)
    textual

theorem schema (textual : d.IsTextual) (named : d.WellNamed) : d.schema.IsTextual where
  columns c member := textual.columns c (named.mem_columns_of_mem_columnList member)
  indexes := textual.indexes
  foreignKeys := textual.foreignKeys

end IsTextual

/-- The schema that requests write, under the name of a table. -/
def written (name : Value) (requests : List Request) : Schema :=
  (serveAll { baseName := name } requests).schema

theorem written_wellNamed (name : Value) (requests : List Request) :
    (written name requests).WellNamed := by
  have fresh : WellNamed { baseName := name } := .of_no_names rfl
  exact (fresh.serveAll requests).schema

theorem written_isTextual (name : Value) {requests : List Request}
    (asked : ∀ r ∈ requests, r.isTextual = true) : (written name requests).IsTextual := by
  have fresh : IsTextual { baseName := name } := by
    constructor <;> intro _ member <;> cases member
  have named : WellNamed { baseName := name } := .of_no_names rfl
  exact (fresh.serveAll asked).schema (named.serveAll requests)

end Draft

end TableDdl
