import TableDdl.Text.Blank
import TableDdl.Text.Casing
import TableDdl.Value.Basic

/-!
# Columns

A column of a table, and the edits that a description makes to it one after the other. An edit
writes some fields and leaves the others alone.
-/

namespace TableDdl

/-- A column: its name, its type as written, and what is said about it beside the type. -/
structure Column where
  name : Value
  type : Option String := none
  length : Option Int := none
  precision : Option Int := none
  nullable : Bool := false
  defaultText : Option String := none
  isUnsigned : Bool := false
  autoIncrement : Bool := false
  deriving Repr, Inhabited

/-- An edit of a column. The last eleven set a type and what usually goes with it. -/
inductive ColumnEdit where
  | type (name : Option String)
  | length (n : Option Int)
  | precision (n : Option Int)
  | nullable (b : Bool)
  | defaultText (text : Option String)
  | isUnsigned (b : Bool)
  | autoIncrement (b : Bool)
  | varchar (length : Option Int)
  | text (length : Option Int)
  | int (length : Option Int)
  | unsignedInt (length : Option Int)
  | unsignedMedium (length : Option Int)
  | float (length precision : Option Int)
  | double (length precision : Option Int)
  | decimal (length precision : Option Int)
  | datetime (defaultText : Option String)
  | timestamp (defaultText : Option String)
  | json
  deriving DecidableEq, Repr

namespace Column

/-- Set a type, and the length and the precision that are given. -/
def sized (c : Column) (type : String) (length precision : Option Int) : Column :=
  { c with type := some type, length := length.or c.length, precision := precision.or c.precision }

/-- Set a type, and the default that is given. -/
def dated (c : Column) (type : String) (text : Option String) : Column :=
  { c with type := some type, defaultText := text.or c.defaultText }

/-- The column after an edit. -/
def edit (c : Column) : ColumnEdit → Column
  | .type name => { c with type := name }
  | .length n => { c with length := n }
  | .precision n => { c with precision := n }
  | .nullable b => { c with nullable := b }
  | .defaultText text => { c with defaultText := text }
  | .isUnsigned b => { c with isUnsigned := b }
  | .autoIncrement b => { c with autoIncrement := b }
  | .varchar length => c.sized "varchar" length none
  | .text length => c.sized "text" length none
  | .int length => c.sized "int" length none
  | .unsignedInt length => { c.sized "int" length none with isUnsigned := true }
  | .unsignedMedium length => { c.sized "mediumint" length none with isUnsigned := true }
  | .float length precision => c.sized "float" length precision
  | .double length precision => c.sized "double" length precision
  | .decimal length precision => c.sized "decimal" length precision
  | .datetime text => c.dated "datetime" text
  | .timestamp text => c.dated "timestamp" text
  | .json => { c with type := some "json" }

/-- The column after a list of edits. -/
def editAll (c : Column) (edits : List ColumnEdit) : Column :=
  edits.foldl edit c

/-- The type in upper case without blanks around it; empty if there is none. -/
def normalizedType (c : Column) : String :=
  Text.upper (Text.strip (c.type.getD ""))

/-- No edit changes the name. -/
@[simp] theorem name_edit (c : Column) (e : ColumnEdit) : (c.edit e).name = c.name := by
  cases e <;> rfl

@[simp] theorem name_editAll (c : Column) (edits : List ColumnEdit) :
    (c.editAll edits).name = c.name := by
  induction edits generalizing c with
  | nil => rfl
  | cons e rest ih => exact (ih (c.edit e)).trans (name_edit c e)

end Column

end TableDdl
