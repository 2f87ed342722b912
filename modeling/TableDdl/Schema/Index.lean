import TableDdl.Value.Text

/-!
# Index entries

An index entry puts one column into an index. Entries that agree in the name of the index and in
its kind make up one index together.
-/

namespace TableDdl

/-- The kind of an index. -/
inductive IndexKind where
  | plain
  | unique
  | fulltext
  | primary
  deriving DecidableEq, Repr, Inhabited

/-- An entry of an index. -/
structure Index where
  keyName : Value
  column : Value
  kind : IndexKind := .plain
  deriving Repr, Inhabited

/-- An edit of an index entry: set the kind, or switch one kind on or off. -/
inductive IndexEdit where
  | kind (k : IndexKind)
  | primary (enabled : Bool)
  | unique (enabled : Bool)
  | fulltext (enabled : Bool)
  deriving DecidableEq, Repr

namespace Index

/-- An entry for a column; without a name of its own the index is named after the column. -/
def of (column keyName : Value) : Except Fault Index := do
  if keyName.isTruthy then return { keyName, column }
  else return { keyName := .str ("ix_" ++ (← column.text)), column }

/-- Switch a kind on, or off if it is the current one. -/
def toggle (i : Index) (kind : IndexKind) (enabled : Bool) : Index :=
  if enabled then { i with kind }
  else if i.kind = kind then { i with kind := .plain }
  else i

/-- The entry after an edit. -/
def edit (i : Index) : IndexEdit → Index
  | .kind k => { i with kind := k }
  | .primary enabled => i.toggle .primary enabled
  | .unique enabled => i.toggle .unique enabled
  | .fulltext enabled => i.toggle .fulltext enabled

/-- The entry after a list of edits. -/
def editAll (i : Index) (edits : List IndexEdit) : Index :=
  edits.foldl edit i

/-- Whether the entry belongs to the primary key. -/
def isPrimary (i : Index) : Bool :=
  i.kind = .primary

/-- No edit changes the name of the index. -/
@[simp] theorem keyName_edit (i : Index) (e : IndexEdit) : (i.edit e).keyName = i.keyName := by
  cases e <;> simp only [edit, toggle] <;> (repeat' split) <;> rfl

/-- No edit changes the column. -/
@[simp] theorem column_edit (i : Index) (e : IndexEdit) : (i.edit e).column = i.column := by
  cases e <;> simp only [edit, toggle] <;> (repeat' split) <;> rfl

@[simp] theorem keyName_editAll (i : Index) (edits : List IndexEdit) :
    (i.editAll edits).keyName = i.keyName := by
  induction edits generalizing i with
  | nil => rfl
  | cons e rest ih => exact (ih (i.edit e)).trans (keyName_edit i e)

@[simp] theorem column_editAll (i : Index) (edits : List IndexEdit) :
    (i.editAll edits).column = i.column := by
  induction edits generalizing i with
  | nil => rfl
  | cons e rest ih => exact (ih (i.edit e)).trans (column_edit i e)

end Index

end TableDdl
