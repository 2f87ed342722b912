import TableDdl.Yaml.Problem

/-!
# Nodes

A document is a tree of scalars, sequences and mappings. Every node has a tag that says what its
value is made from. Where the document has an alias, the tree has a copy of the node that the
alias stands for, with the same place.
-/

namespace TableDdl.Yaml

/-- The tags that have a meaning of their own, and all others. -/
inductive Tag where
  | null
  | bool
  | int
  | float
  | binary
  | timestamp
  | str
  | seq
  | map
  /-- The tag of the key whose value is merged into the mapping. -/
  | merge
  /-- The tag of the key whose value stands for the mapping as a scalar. -/
  | value
  | other (name : String)
  deriving DecidableEq, Repr

/-- What the full names of the common tags begin with. -/
def commonTag : String := "tag:yaml.org,2002:"

/-- The tag of a full name. -/
def Tag.ofName (name : String) : Tag :=
  if name = commonTag ++ "null" then .null
  else if name = commonTag ++ "bool" then .bool
  else if name = commonTag ++ "int" then .int
  else if name = commonTag ++ "float" then .float
  else if name = commonTag ++ "binary" then .binary
  else if name = commonTag ++ "timestamp" then .timestamp
  else if name = commonTag ++ "str" then .str
  else if name = commonTag ++ "seq" then .seq
  else if name = commonTag ++ "map" then .map
  else if name = commonTag ++ "merge" then .merge
  else if name = commonTag ++ "value" then .value
  else .other name

/-- A node of a document. Its place is the number of tokens before it. -/
inductive Node where
  | scalar (place : Nat) (tag : Tag) (text : String)
  | sequence (place : Nat) (tag : Tag) (items : List Node)
  | mapping (place : Nat) (tag : Tag) (entries : List (Node × Node))
  deriving Repr

instance : Inhabited Node := ⟨.scalar 0 .null ""⟩

namespace Node

/-- The tag of a node. -/
def tag : Node → Tag
  | .scalar _ tag _ => tag
  | .sequence _ tag _ => tag
  | .mapping _ tag _ => tag

/-- The place of a node. -/
def place : Node → Nat
  | .scalar place _ _ => place
  | .sequence place _ _ => place
  | .mapping place _ _ => place

end Node

end TableDdl.Yaml
