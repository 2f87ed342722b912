import TableDdl.Schema.Basic

/-!
# Grouping of index entries

The entries that agree in name and kind make up one index. The indexes come in the order of
their first entries, and each has its columns in the order of its entries.
-/

namespace TableDdl

/-- An index made up of entries. -/
structure IndexGroup where
  key : Key
  keyName : Value
  kind : IndexKind
  columns : List Value
  deriving Repr

namespace IndexGroup

/-- Whether an entry with the given key and kind belongs to the group. -/
def takes (g : IndexGroup) (key : Key) (kind : IndexKind) : Bool :=
  g.key = key && g.kind = kind

/-- Add an entry to the group that takes it, or start a group with it. -/
def place (key : Key) (i : Index) : List IndexGroup → List IndexGroup
  | [] => [⟨key, i.keyName, i.kind, [i.column]⟩]
  | g :: rest =>
    if g.takes key i.kind then { g with columns := g.columns ++ [i.column] } :: rest
    else g :: place key i rest

/-- Add entries one after the other, leaving out those of the primary key. -/
def collect (groups : List IndexGroup) : List Index → Except Fault (List IndexGroup)
  | [] => .ok groups
  | i :: rest =>
    if i.isPrimary then collect groups rest
    else do
      let key ← i.keyName.key
      collect (place key i groups) rest

end IndexGroup

/-- The indexes of a schema other than the primary key. -/
def Schema.indexGroups (s : Schema) : Except Fault (List IndexGroup) :=
  IndexGroup.collect [] s.indexes

end TableDdl
