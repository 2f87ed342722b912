import TableDdl.Yaml.Node

/-!
# Default keys

A mapping may stand for a scalar: the value of its default key, which is written as an equals
sign, is the text of that scalar. Where a mapping is built as such, its default keys become plain
texts, and so do the aliases of them that are built after it. What a node stands for hence depends
on when it is built. Collections are entered level by level from the root on, and when one is
entered, its parts are built.
-/

namespace TableDdl.Yaml

/-- The entries of a mapping that are not merged into it. -/
def ownEntries (entries : List (Node × Node)) : List (Node × Node) :=
  entries.filter fun (k, _) => k.tag ≠ .merge

mutual

/-- The entries that are merged into a mapping. -/
def mergedEntries : List (Node × Node) → List (Node × Node)
  | [] => []
  | (k, v) :: rest =>
    if k.tag = .merge then v.entriesToMerge ++ mergedEntries rest else mergedEntries rest

/-- The entries that a node gives to a mapping that it is merged into. -/
def Node.entriesToMerge : Node → List (Node × Node)
  | .scalar _ _ _ => []
  | .sequence _ _ items => itemEntries items
  | .mapping _ _ entries => mergedEntries entries ++ ownEntries entries

/-- The entries that the mappings of a sequence give, those of later ones first. -/
def itemEntries : List Node → List (Node × Node)
  | [] => []
  | .mapping _ _ entries :: rest =>
    itemEntries rest ++ (mergedEntries entries ++ ownEntries entries)
  | _ :: rest => itemEntries rest

end

/-- All entries of a mapping. -/
def allEntries (entries : List (Node × Node)) : List (Node × Node) :=
  mergedEntries entries ++ ownEntries entries

mutual

/-- The text that a node has as a scalar, when the default keys at some places are plain texts. -/
def Node.scalarText? (plain : List Nat) : Node → Option String
  | .scalar _ _ text => some text
  | .sequence _ _ _ => none
  | .mapping _ _ entries => defaultText? plain entries

/-- The text of the entry that stands for a mapping as a scalar. -/
def defaultText? (plain : List Nat) : List (Node × Node) → Option String
  | [] => none
  | (k, v) :: rest =>
    if k.tag = .value ∧ k.place ∉ plain then v.scalarText? plain else defaultText? plain rest

end

/-- Whether nodes with this tag are made from a scalar. -/
def Tag.isScalar : Tag → Bool
  | .null => true
  | .bool => true
  | .int => true
  | .float => true
  | .binary => true
  | .timestamp => true
  | .str => true
  | _ => false

/-- What is known of the default keys of a document and of its mappings that stand for scalars, by
their places. -/
structure DefaultKeys where
  /-- The keys that are plain texts by now. -/
  plain : List Nat := []
  /-- The nodes that were built with the tag of a default key. -/
  bare : List Nat := []
  /-- The texts of the mappings that were built as scalars. -/
  texts : List (Nat × Option String) := []
  deriving Repr, Inhabited

namespace DefaultKeys

/-- The tag that a node is built with. -/
def tagOf (d : DefaultKeys) (place : Nat) (tag : Tag) : Tag :=
  if tag = .value ∧ place ∉ d.bare then .str else tag

/-- The text of a mapping that stands for a scalar. -/
def text? (d : DefaultKeys) (place : Nat) : Option String :=
  (d.texts.lookup place).join

/-- Build a node. A node that was built before stays as it is. -/
def build (d : DefaultKeys) (n : Node) : DefaultKeys :=
  if n.tag = .value ∧ n.place ∉ d.plain then { d with bare := n.place :: d.bare }
  else
    match n with
    | .mapping place tag entries =>
      if (tag.isScalar || tag == .value) && (d.texts.lookup place).isNone then
        { d with texts := (place, defaultText? d.plain entries) :: d.texts }
      else d
    | _ => d

/-- Enter a collection: what is known after its parts are built, and the collections among
them. -/
def enter (d : DefaultKeys) : Node → DefaultKeys × List Node
  | .scalar _ _ _ => (d, [])
  | .sequence _ tag items => if tag = .seq then (items.foldl build d, items) else (d, [])
  | .mapping _ tag entries =>
    if tag = .map then
      let all := allEntries entries
      let keys := (all.map Prod.fst).filter fun k => k.tag = .value ∧ k.place ∉ d.plain
      let parts := all.flatMap fun (k, v) => [k, v]
      (parts.foldl build { d with plain := keys.map Node.place ++ d.plain }, parts)
    else (d, [])

/-- Enter the collections of a level, and those of the `bound` levels below it. -/
def enterLevels (d : DefaultKeys) : Nat → List Node → DefaultKeys
  | 0, _ => d
  | bound + 1, level =>
    let (d, next) := level.foldl (fun ((d, next) : DefaultKeys × List Node) n =>
      let (d, parts) := d.enter n
      (d, parts.reverse ++ next)) (d, [])
    if next.isEmpty then d else d.enterLevels bound next.reverse

end DefaultKeys

mutual

/-- The number of levels of a tree. -/
def Node.levels : Node → Nat
  | .scalar _ _ _ => 1
  | .sequence _ _ items => levelsOfItems items + 1
  | .mapping _ _ entries => levelsOfEntries entries + 1

/-- The greatest number of levels of the trees of a list. -/
def levelsOfItems : List Node → Nat
  | [] => 0
  | n :: rest => max n.levels (levelsOfItems rest)

/-- The greatest number of levels of the keys and values of entries. -/
def levelsOfEntries : List (Node × Node) → Nat
  | [] => 0
  | (k, v) :: rest => max (max k.levels v.levels) (levelsOfEntries rest)

end

/-- The default keys of a document. -/
def DefaultKeys.of (root : Node) : DefaultKeys :=
  (({} : DefaultKeys).build root).enterLevels root.levels [root]

end TableDdl.Yaml
