import TableDdl.Schema.NameMap
import TableDdl.Yaml.Node.DefaultKey
import TableDdl.Yaml.Node.Scalar

/-!
# Values of nodes

A tree of nodes has a value unless one of them fails. Of several failures the one nearest to the
root counts, and of those at one depth the first. A mapping takes over the entries of the
mappings that are merged into it; its own entries come after them, and of several entries with
one key the last one counts, at the place of the first.
-/

namespace TableDdl.Yaml

/-- Failures by their depth; those at one depth are in the order of the document. -/
abbrev Failures := List (List (Failure Problem))

namespace Failures

/-- A failure of the node itself. -/
def here (f : Failure Problem) : Failures := [[f]]

/-- Failures one level further down. -/
def below (fs : Failures) : Failures := [] :: fs

/-- The failures of one part before those of the next. -/
def join : Failures → Failures → Failures
  | [], later => later
  | first, [] => first
  | level :: first, level' :: later => (level ++ level') :: join first later

/-- The failure that counts. -/
def first? (fs : Failures) : Option (Failure Problem) :=
  fs.flatten.head?

end Failures

/-- What becomes of a part of a tree. -/
abbrev Built (α : Type) := Except Failures α

/-- Two parts of one collection; the failures of both are kept. -/
def Built.both {α β γ : Type} (make : α → β → γ) : Built α → Built β → Built γ
  | .ok a, .ok b => .ok (make a b)
  | .ok _, .error fs => .error fs
  | .error fs, .ok _ => .error fs
  | .error fs, .error later => .error (fs.join later)

/-- A result of a node itself. -/
def Built.ofAttempt {α : Type} : Attempt Problem α → Built α
  | .ok a => .ok a
  | .error f => .error (Failures.here f)

/-- The content of a collection. -/
def Built.content {α β : Type} (make : α → β) : Built α → Built β
  | .ok a => .ok (make a)
  | .error fs => .error fs.below

/-- What becomes of an entry of a mapping. -/
abbrev BuiltEntry := Built (Value × Value)

/-- The entries of a mapping, one after the other. -/
def builtEntries (entries : List BuiltEntry) : Built (List (Value × Value)) :=
  entries.foldr (Built.both (· :: ·)) (.ok [])

/-- The value of a mapping with the given entries. -/
def mappingOf (entries : List (Value × Value)) : Value :=
  let m := entries.foldl (fun (m : NameMap Value) (k, v) =>
    match k.key with
    | .ok key => m.insert key k v
    | .error _ => m) NameMap.empty
  .map (m.entries.map fun entry => (entry.spelling, entry.item))

/-- A node of this kind has no value under a tag that wants another kind. The failure is found at
the depth of the content if the tag is that of a collection. -/
def misfit (tag : Tag) : Built Value :=
  match tag with
  | .seq => .error (Failures.here (.refused (.wrongKind "a sequence node"))).below
  | .map => .error (Failures.here (.refused (.wrongKind "a mapping node"))).below
  | .merge => .error (Failures.here (.refused (.undefinedTag (commonTag ++ "merge"))))
  | .value => .error (Failures.here (.refused (.undefinedTag (commonTag ++ "value"))))
  | .other name => .error (Failures.here (.refused (.undefinedTag name)))
  | _ => .error (Failures.here (.refused (.wrongKind "a scalar node")))

/-- The value of a mapping that stands for a scalar. -/
def scalarMapping (d : DefaultKeys) (place : Nat) (tag : Tag) : Built Value :=
  if tag.isScalar then
    match tag, d.text? place with
    | _, none => misfit tag
    | .timestamp, some _ => .error (Failures.here (.fault (.momentKind "list")))
    | _, some text => Built.ofAttempt (Scalar.valueOf place tag text)
  else misfit tag

mutual

/-- The value of a node, or its failures. -/
def Node.built (d : DefaultKeys) : Node → Built Value
  | .scalar place tag text =>
    let tag := d.tagOf place tag
    if tag = .seq ∨ tag = .map then misfit tag
    else Built.ofAttempt (Scalar.valueOf place tag text)
  | .sequence place tag items =>
    if tag = .seq then Built.content .list (builtItems d items) else misfit (d.tagOf place tag)
  | .mapping place tag entries =>
    if tag = .map then
      match flattened d entries with
      | .error f => .error (Failures.here f).below
      | .ok (merged, own) => Built.content mappingOf (builtEntries (merged ++ own))
    else scalarMapping d place (d.tagOf place tag)

/-- The values of the items of a sequence. -/
def builtItems (d : DefaultKeys) : List Node → Built (List Value)
  | [] => .ok []
  | n :: rest => Built.both (· :: ·) (n.built d) (builtItems d rest)

/-- A key. A list or a mapping is refused before its content is looked at. -/
def Node.builtKey (d : DefaultKeys) : Node → Built Value
  | .scalar place tag text =>
    let tag := d.tagOf place tag
    if tag = .seq ∨ tag = .map then .error (Failures.here (.refused .unhashableKey))
    else Built.ofAttempt (Scalar.valueOf place tag text)
  | .sequence place tag _ =>
    if tag = .seq ∨ tag = .map then .error (Failures.here (.refused .unhashableKey))
    else misfit (d.tagOf place tag)
  | .mapping place tag _ =>
    if tag = .seq ∨ tag = .map then .error (Failures.here (.refused .unhashableKey))
    else scalarMapping d place (d.tagOf place tag)

/-- The entries of a mapping: those that are merged into it, and its own. -/
def flattened (d : DefaultKeys) :
    List (Node × Node) → Attempt Problem (List BuiltEntry × List BuiltEntry)
  | [] => .ok ([], [])
  | (k, v) :: rest => do
    if k.tag = .merge then
      let source ← v.mergeSource d
      let (merged, own) ← flattened d rest
      return (source ++ merged, own)
    else
      let (merged, own) ← flattened d rest
      return (merged, Built.both Prod.mk (k.builtKey d) (v.built d) :: own)

/-- The entries that a node gives to a mapping that it is merged into. Of the mappings of a
sequence, earlier ones take precedence and so come later. -/
def Node.mergeSource (d : DefaultKeys) : Node → Attempt Problem (List BuiltEntry)
  | .scalar _ _ _ => refuse (.wrongKind "a mapping or list of mappings for merging")
  | .sequence _ _ items => mergeSources d items
  | .mapping _ _ entries => do
    let (merged, own) ← flattened d entries
    return merged ++ own

/-- The entries that the mappings of a sequence give to a mapping. -/
def mergeSources (d : DefaultKeys) : List Node → Attempt Problem (List BuiltEntry)
  | [] => .ok []
  | n :: rest =>
    match n with
    | .mapping _ _ entries => do
      let (merged, own) ← flattened d entries
      let later ← mergeSources d rest
      return later ++ (merged ++ own)
    | _ => refuse (.wrongKind "a mapping for merging")

end

/-- The value of a node. -/
def Node.value (n : Node) : Attempt Problem Value :=
  match n.built (DefaultKeys.of n) with
  | .ok v => .ok v
  | .error fs => .error ((fs.first?).getD (.refused (.unexpected "a value")))

end TableDdl.Yaml
