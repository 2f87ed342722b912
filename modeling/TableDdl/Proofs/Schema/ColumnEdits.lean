import TableDdl.Schema.Column
import Mathlib.Data.List.Induction

/-!
# Edits of a column

Every edit of a column writes some fields, and leaves the others as they are. After any edits each
field holds what the last edit that writes it has written there. Two edits that have no field to
write in common can change places.
-/

namespace TableDdl

/-- The fields of a column. -/
inductive ColumnField where
  | name
  | type
  | length
  | precision
  | nullable
  | defaultText
  | isUnsigned
  | autoIncrement
  deriving DecidableEq, Repr

namespace ColumnField

/-- What a field can hold. -/
def Content : ColumnField → Type
  | .name => Value
  | .type => Option String
  | .length => Option Int
  | .precision => Option Int
  | .nullable => Bool
  | .defaultText => Option String
  | .isUnsigned => Bool
  | .autoIncrement => Bool

/-- What a field of a new column holds: only the name is given. -/
def initial (name : Value) : (f : ColumnField) → f.Content
  | .name => name
  | .type => (none : Option String)
  | .length => (none : Option Int)
  | .precision => (none : Option Int)
  | .nullable => false
  | .defaultText => (none : Option String)
  | .isUnsigned => false
  | .autoIncrement => false

end ColumnField

/-- What a column holds in a field. -/
def Column.field (c : Column) : (f : ColumnField) → f.Content
  | .name => c.name
  | .type => c.type
  | .length => c.length
  | .precision => c.precision
  | .nullable => c.nullable
  | .defaultText => c.defaultText
  | .isUnsigned => c.isUnsigned
  | .autoIncrement => c.autoIncrement

namespace ColumnEdit

/-- The type that a shortcut stands for. -/
def shortcutType? : ColumnEdit → Option String
  | .varchar _ => some "varchar"
  | .text _ => some "text"
  | .int _ | .unsignedInt _ => some "int"
  | .unsignedMedium _ => some "mediumint"
  | .float _ _ => some "float"
  | .double _ _ => some "double"
  | .decimal _ _ => some "decimal"
  | .datetime _ => some "datetime"
  | .timestamp _ => some "timestamp"
  | .json => some "json"
  | .type _ | .length _ | .precision _ | .nullable _ | .defaultText _ | .isUnsigned _
  | .autoIncrement _ => none

/-- The length that is given to a shortcut. -/
def shortcutLength? : ColumnEdit → Option Int
  | .varchar n | .text n | .int n | .unsignedInt n | .unsignedMedium n => n
  | .float n _ | .double n _ | .decimal n _ => n
  | _ => none

/-- The precision that is given to a shortcut. -/
def shortcutPrecision? : ColumnEdit → Option Int
  | .float _ n | .double _ n | .decimal _ n => n
  | _ => none

/-- The default that is given to a shortcut. -/
def shortcutDefault? : ColumnEdit → Option String
  | .datetime given | .timestamp given => given
  | _ => none

/-- What an edit writes into a field, if it writes the field. -/
def written : (f : ColumnField) → ColumnEdit → Option f.Content
  | .name, _ => none
  | .type, .type name => some name
  | .type, e => e.shortcutType?.map some
  | .length, .length n => some n
  | .length, e => e.shortcutLength?.map some
  | .precision, .precision n => some n
  | .precision, e => e.shortcutPrecision?.map some
  | .nullable, .nullable b => some b
  | .nullable, _ => none
  | .defaultText, .defaultText given => some given
  | .defaultText, e => e.shortcutDefault?.map some
  | .isUnsigned, .isUnsigned b => some b
  | .isUnsigned, .unsignedInt _ => some true
  | .isUnsigned, .unsignedMedium _ => some true
  | .isUnsigned, _ => none
  | .autoIncrement, .autoIncrement b => some b
  | .autoIncrement, _ => none

/-- No field is written by both edits. -/
def WritesApart (a b : ColumnEdit) : Prop :=
  ∀ f, a.written f = none ∨ b.written f = none

end ColumnEdit

namespace Column

/-- What a field holds after edits of a column that held `start` there: what the last edit that
writes the field has written, or still `start` if no edit writes it. -/
inductive LastWritten (f : ColumnField) (start : f.Content) (edits : List ColumnEdit) :
    f.Content → Prop
  | never (unwritten : ∀ e ∈ edits, e.written f = none) : LastWritten f start edits start
  | written {before after : List ColumnEdit} {e : ColumnEdit} {v : f.Content}
      (split : edits = before ++ e :: after) (writes : e.written f = some v)
      (quiet : ∀ later ∈ after, later.written f = none) : LastWritten f start edits v

variable {c : Column} {e : ColumnEdit} {edits : List ColumnEdit} {f : ColumnField} {v : f.Content}

/-- A column is known by what it holds in its fields. -/
theorem eq_of_field {c d : Column} (same : ∀ f, c.field f = d.field f) : c = d := by
  have name : c.name = d.name := same .name
  have type : c.type = d.type := same .type
  have length : c.length = d.length := same .length
  have precision : c.precision = d.precision := same .precision
  have nullable : c.nullable = d.nullable := same .nullable
  have defaultText : c.defaultText = d.defaultText := same .defaultText
  have isUnsigned : c.isUnsigned = d.isUnsigned := same .isUnsigned
  have autoIncrement : c.autoIncrement = d.autoIncrement := same .autoIncrement
  cases c
  cases d
  rw [mk.injEq]
  exact ⟨name, type, length, precision, nullable, defaultText, isUnsigned, autoIncrement⟩

theorem field_new (name : Value) (f : ColumnField) :
    Column.field { name } f = f.initial name := by
  cases f <;> rfl

/-- What is given to a shortcut counts before what was there. -/
theorem or_eq_getD_map_some {α : Type} (given held : Option α) :
    given.or held = (given.map some).getD held := by
  cases given <;> rfl

/-- An edit changes the fields that it writes, and no others. -/
theorem field_edit (c : Column) (e : ColumnEdit) (f : ColumnField) :
    (c.edit e).field f = (e.written f).getD (c.field f) := by
  cases f with
  | name => exact name_edit c e
  | type => cases e <;> rfl
  | length =>
    cases e with
    | varchar n | text n | int n | unsignedInt n | unsignedMedium n =>
      exact or_eq_getD_map_some n c.length
    | float n _ | double n _ | decimal n _ => exact or_eq_getD_map_some n c.length
    | _ => rfl
  | precision =>
    cases e with
    | float _ n | double _ n | decimal _ n => exact or_eq_getD_map_some n c.precision
    | _ => rfl
  | nullable => cases e <;> rfl
  | defaultText =>
    cases e with
    | datetime given | timestamp given => exact or_eq_getD_map_some given c.defaultText
    | _ => rfl
  | isUnsigned => cases e <;> rfl
  | autoIncrement => cases e <;> rfl

theorem field_edit_of_written (writes : e.written f = some v) : (c.edit e).field f = v := by
  rw [field_edit, writes]
  rfl

theorem field_edit_of_unwritten (unwritten : e.written f = none) :
    (c.edit e).field f = c.field f := by
  rw [field_edit, unwritten]
  rfl

theorem editAll_append (c : Column) (first second : List ColumnEdit) :
    c.editAll (first ++ second) = (c.editAll first).editAll second :=
  List.foldl_append

/-- A field that no edit writes stays as it is. -/
theorem field_editAll_of_unwritten (unwritten : ∀ e ∈ edits, e.written f = none) :
    (c.editAll edits).field f = c.field f := by
  induction edits generalizing c with
  | nil => rfl
  | cons e rest ih =>
    obtain ⟨unwrittenFirst, unwrittenRest⟩ := List.forall_mem_cons.mp unwritten
    have later : ((c.edit e).editAll rest).field f = (c.edit e).field f := ih unwrittenRest
    exact later.trans (field_edit_of_unwritten unwrittenFirst)

theorem field_editAll_of_lastWritten (last : LastWritten f (c.field f) edits v) :
    (c.editAll edits).field f = v := by
  cases last with
  | never unwritten => exact field_editAll_of_unwritten unwritten
  | @written before after e v split writes quiet =>
    have kept : (((c.editAll before).edit e).editAll after).field f =
        ((c.editAll before).edit e).field f := field_editAll_of_unwritten quiet
    rw [split, editAll_append]
    exact kept.trans (field_edit_of_written writes)

/-- One more edit writes the field anew, or leaves what was last written there. -/
theorem LastWritten.concat {start : f.Content} (last : LastWritten f start edits v)
    (e : ColumnEdit) :
    LastWritten f start (edits ++ [e]) ((e.written f).getD v) := by
  cases writes : e.written f with
  | some w => exact .written rfl writes (by simp)
  | none =>
    have unwrittenLast : ∀ other ∈ [e], other.written f = none :=
      List.forall_mem_singleton.mpr writes
    cases last with
    | never unwritten =>
      exact .never (List.forall_mem_append.mpr ⟨unwritten, unwrittenLast⟩)
    | @written before after earlier _ split wrote quiet =>
      have longer : edits ++ [e] = before ++ earlier :: (after ++ [e]) := by
        rw [split, List.append_assoc, List.cons_append]
      exact .written longer wrote (List.forall_mem_append.mpr ⟨quiet, unwrittenLast⟩)

theorem lastWritten_editAll (c : Column) (edits : List ColumnEdit) (f : ColumnField) :
    LastWritten f (c.field f) edits ((c.editAll edits).field f) := by
  induction edits using List.reverseRecOn with
  | nil => exact .never (by simp)
  | append_singleton edits e ih =>
    have step : (c.editAll (edits ++ [e])).field f =
        (e.written f).getD ((c.editAll edits).field f) := by
      rw [editAll_append]
      exact field_edit _ e f
    rw [step]
    exact ih.concat e

/-- Two edits that have no field to write in common can change places. -/
theorem edit_comm {a b : ColumnEdit} (apart : a.WritesApart b) (c : Column) :
    (c.edit a).edit b = (c.edit b).edit a := by
  apply eq_of_field
  intro f
  rw [field_edit, field_edit, field_edit, field_edit]
  rcases apart f with unwritten | unwritten
  · rw [unwritten]
    rfl
  · rw [unwritten]
    rfl

/-- After any edits of a new column, each field holds what the last edit that writes it has written
there, and what a new column holds if no edit writes it. Among any edits, two that have no field to
write in common and follow each other can change places. -/
theorem field_editAll_iff_lastWritten (name : Value) (edits : List ColumnEdit) :
    (∀ (f : ColumnField) (v : f.Content),
      (Column.editAll { name } edits).field f = v ↔ LastWritten f (f.initial name) edits v) ∧
      ∀ (a b : ColumnEdit), a.WritesApart b → ∀ (c : Column) (before after : List ColumnEdit),
        c.editAll (before ++ a :: b :: after) = c.editAll (before ++ b :: a :: after) := by
  refine ⟨?last, ?commute⟩
  case last =>
    intro f v
    rw [← field_new name f]
    constructor
    · rintro rfl
      exact lastWritten_editAll { name } edits f
    · exact field_editAll_of_lastWritten
  case commute =>
    intro a b apart c before after
    rw [editAll_append, editAll_append]
    exact congrArg (·.editAll after) (edit_comm apart (c.editAll before))

/-- The edits that make a column a decimal, and then a text without a length. -/
def retyped : List ColumnEdit :=
  [.decimal (some 10) (some 0), .varchar none, .isUnsigned true]

/-- The shortcut without sizes leaves the precision zero that was given before, and it does not
matter on which side of it the column is made unsigned. -/
theorem field_editAll_iff_lastWritten_retyped :
    (Column.editAll { name := .str "n" } retyped).field .precision = some (0 : Int) ∧
      (Column.editAll { name := .str "n" } retyped).field .type = some "varchar" ∧
      ColumnEdit.WritesApart (.varchar none) (.isUnsigned true) ∧
      Column.editAll { name := .str "n" } retyped =
        Column.editAll { name := .str "n" }
          [.decimal (some 10) (some 0), .isUnsigned true, .varchar none] := by
  obtain ⟨last, commute⟩ := field_editAll_iff_lastWritten (.str "n") retyped
  have atDecimal : retyped = [] ++ .decimal (some 10) (some 0) ::
      [.varchar none, .isUnsigned true] := rfl
  have atVarchar : retyped = [.decimal (some 10) (some 0)] ++ .varchar none ::
      [.isUnsigned true] := rfl
  have apart : ColumnEdit.WritesApart (.varchar none) (.isUnsigned true) := by
    intro f
    cases f with
    | isUnsigned => exact .inl rfl
    | _ => exact .inr rfl
  refine ⟨(last .precision _).mpr (.written atDecimal rfl ?_),
    (last .type _).mpr (.written atVarchar rfl ?_), apart, ?_⟩
  · exact List.forall_mem_cons.mpr ⟨rfl, List.forall_mem_singleton.mpr rfl⟩
  · exact List.forall_mem_singleton.mpr rfl
  · exact commute _ _ apart _ [.decimal (some 10) (some 0)] []

end Column

end TableDdl
