import TableDdl.Yaml.Node.PlainTag
import TableDdl.Yaml.Token

/-!
# The grammar of documents

A list of tokens is read as one document. Collections nest as their tokens do, anchors name nodes
for the aliases behind them, and what is left out between tokens stands for nothing.
-/

namespace TableDdl.Yaml

/-- What is left to read: the tokens, how many were read, and the anchors so far. The node of an
anchor is missing while it is being read. -/
structure Grammar where
  tokens : List Token
  taken : Nat := 0
  anchors : List (String × Option Node) := []

namespace Grammar

/-- A reader of a part of a document. -/
abbrev Reader := StateT Grammar (Except (Failure Problem))

/-- What the handles of tags stand for. -/
abbrev Handles := List (String × String)

/-- The handles that need no directive. -/
def commonHandles : Handles := [("!", "!"), ("!!", commonTag)]

/-- The next token. Where the text could not be divided further, that failure is met. -/
def peek : Reader Token := do
  match (← get).tokens.head?.getD .streamEnd with
  | .failed failure => throw failure
  | t => return t

/-- Go past the next token. -/
def skip : Reader Unit :=
  modify fun g => { g with tokens := g.tokens.tail, taken := g.taken + 1 }

/-- How many tokens were read. -/
def here : Reader Nat := do
  return (← get).taken

/-- The next token does not fit. -/
def unexpected {α : Type} (what : String) : Reader α :=
  throw (.refused (.unexpected what))

/-- There is no next token that fits. -/
def exhausted {α : Type} (what : String) : Reader α := do
  let _ ← peek
  unexpected what

/-- What is left out. -/
def absent : Node := .scalar 0 .null ""

/-- The full name of a tag. -/
def fullName (handles : Handles) (mark : TagMark) : Reader String :=
  match mark.handle with
  | none => return mark.suffix
  | some handle =>
    match handles.find? (·.1 == handle) with
    | some (_, expansion) => return expansion ++ mark.suffix
    | none => throw (.refused (.undefinedHandle handle))

/-- The tag of a node that may have one, other than the tag that asks for none in particular. -/
def tagOr (fallback : Tag) : Option String → Tag
  | none => fallback
  | some name => if name = "!" then fallback else Tag.ofName name

/-- The tag of a scalar: a plain one is judged by its text, and so is one whose tag asks for
none in particular. -/
def scalarTag (text : String) (plain : Bool) : Option String → Tag
  | none => if plain then PlainTag.ofText text else .str
  | some name => if name = "!" then PlainTag.ofText text else Tag.ofName name

/-- The name and the anchor in front of a node, in either order. -/
def properties (handles : Handles) : Reader (Option String × Option String) := do
  match ← peek with
  | .anchor anchor =>
    skip
    match ← peek with
    | .tag mark => do
      skip
      return (some (← fullName handles mark), some anchor)
    | _ => return (none, some anchor)
  | .tag mark => do
    skip
    match ← peek with
    | .anchor anchor => do
      skip
      return (some (← fullName handles mark), some anchor)
    | _ => return (some (← fullName handles mark), none)
  | _ => return (none, none)

/-- The node of an anchor. -/
def aliased (name : String) : Reader Node := do
  match (← get).anchors.find? (·.1 == name) with
  | some (_, some node) => return node
  | _ => throw (.refused (.undefinedAlias name))

/-- Set an anchor whose node is still to be read. -/
def openAnchor (name : String) : Reader Unit := do
  if (← get).anchors.any (·.1 == name) then throw (.refused (.duplicateAnchor name))
  modify fun g => { g with anchors := (name, none) :: g.anchors }

/-- Give an anchor its node. -/
def closeAnchor (name : String) (node : Node) : Reader Unit :=
  modify fun g => { g with
    anchors := g.anchors.map fun entry => if entry.1 == name then (name, some node) else entry }

/-- Where a node stands: in a flow collection, in a block collection, or behind the mark of a key
or a value, where a sequence needs no indentation of its own. -/
inductive Setting where
  | flow
  | block
  | mappingPart
  deriving DecidableEq

/-- Whether a token ends an entry of a block sequence. -/
def endsBlockEntry : Token → Bool
  | .blockEntry => true
  | .blockEnd => true
  | _ => false

/-- Whether a token ends an entry of a sequence without indentation of its own. -/
def endsIndentlessEntry : Token → Bool
  | .blockEntry => true
  | .key => true
  | .value => true
  | .blockEnd => true
  | _ => false

/-- Whether a token ends a key or a value of a block mapping. -/
def endsBlockPart : Token → Bool
  | .key => true
  | .value => true
  | .blockEnd => true
  | _ => false

/-- Whether a token ends a value in a flow sequence. -/
def endsFlowItem : Token → Bool
  | .flowEntry => true
  | .flowSequenceEnd => true
  | _ => false

/-- Whether a token ends a value in a flow mapping. -/
def endsFlowValue : Token → Bool
  | .flowEntry => true
  | .flowMappingEnd => true
  | _ => false

/-- Whether a token ends a key of a flow collection, beside those that end its value. -/
def isValueMark : Token → Bool
  | .value => true
  | _ => false

mutual

/-- Read a node. -/
def node (handles : Handles) : Nat → Setting → Reader Node
  | 0, _ => exhausted "a node"
  | bound + 1, setting => do
    match ← peek with
    | .alias name => do
      skip
      aliased name
    | _ => do
      let place ← here
      let (name, anchor) ← properties handles
      let _ ← peek
      anchor.forM openAnchor
      let n ← content handles bound setting place name anchor.isSome
      anchor.forM (closeAnchor · n)
      return n

/-- Read the content of the node at a place. -/
def content (handles : Handles) : Nat → Setting → Nat → Option String → Bool → Reader Node
  | 0, _, _, _, _ => exhausted "a node"
  | bound + 1, setting, place, name, anchored => do
    match setting, ← peek with
    | .mappingPart, .blockEntry =>
      return .sequence place (tagOr .seq name) (← indentlessItems handles bound)
    | _, .scalar text plain => do
      skip
      return .scalar place (scalarTag text plain name) text
    | _, .flowSequenceStart => do
      skip
      return .sequence place (tagOr .seq name) (← flowItems handles bound true)
    | _, .flowMappingStart => do
      skip
      return .mapping place (tagOr .map name) (← flowEntries handles bound true)
    | setting, t =>
      match decide (setting = .flow), t with
      | false, .blockSequenceStart => do
        skip
        return .sequence place (tagOr .seq name) (← blockItems handles bound)
      | false, .blockMappingStart => do
        skip
        return .mapping place (tagOr .map name) (← blockEntries handles bound)
      | _, _ =>
        if anchored || name.isSome then return .scalar place (scalarTag "" true name) ""
        else unexpected "a node"

/-- Read a node, unless the next token ends its place. -/
def nodeUnless (handles : Handles) : Nat → (Token → Bool) → Setting → Reader Node
  | 0, _, _ => exhausted "a node"
  | bound + 1, ends, setting => do
    if ends (← peek) then return absent else node handles bound setting

/-- Read the items of a block sequence. -/
def blockItems (handles : Handles) : Nat → Reader (List Node)
  | 0 => exhausted "a block collection"
  | bound + 1 => do
    match ← peek with
    | .blockEntry => do
      skip
      let item ← nodeUnless handles bound endsBlockEntry .block
      return item :: (← blockItems handles bound)
    | .blockEnd => do
      skip
      return []
    | _ => unexpected "a block collection"

/-- Read the items of a sequence without indentation of its own. -/
def indentlessItems (handles : Handles) : Nat → Reader (List Node)
  | 0 => exhausted "a block collection"
  | bound + 1 => do
    match ← peek with
    | .blockEntry => do
      skip
      let item ← nodeUnless handles bound endsIndentlessEntry .block
      return item :: (← indentlessItems handles bound)
    | _ => return []

/-- Read the value that may follow a key. -/
def valueUnless (handles : Handles) : Nat → (Token → Bool) → Setting → Reader Node
  | 0, _, _ => exhausted "a value"
  | bound + 1, ends, setting => do
    match ← peek with
    | .value => do
      skip
      nodeUnless handles bound ends setting
    | _ => return absent

/-- Read the entries of a block mapping. -/
def blockEntries (handles : Handles) : Nat → Reader (List (Node × Node))
  | 0 => exhausted "a block mapping"
  | bound + 1 => do
    match ← peek with
    | .key => do
      skip
      let key ← nodeUnless handles bound endsBlockPart .mappingPart
      let value ← valueUnless handles bound endsBlockPart .mappingPart
      return (key, value) :: (← blockEntries handles bound)
    | .blockEnd => do
      skip
      return []
    | _ => unexpected "a block mapping"

/-- Read the items of a flow sequence. A key among them makes a mapping of one entry. -/
def flowItems (handles : Handles) : Nat → Bool → Reader (List Node)
  | 0, _ => exhausted "a flow sequence"
  | bound + 1, first => do
    match ← peek, first with
    | .flowSequenceEnd, _ => do
      skip
      return []
    | .flowEntry, false => do
      skip
      match ← peek with
      | .flowSequenceEnd => do
        skip
        return []
      | _ => flowItem handles bound
    | _, true => flowItem handles bound
    | _, false => unexpected "a flow sequence"

/-- Read an item of a flow sequence and those behind it. -/
def flowItem (handles : Handles) : Nat → Reader (List Node)
  | 0 => exhausted "a flow sequence"
  | bound + 1 => do
    match ← peek with
    | .key => do
      let place ← here
      skip
      let key ← nodeUnless handles bound (fun t => isValueMark t || endsFlowItem t) .flow
      let value ← valueUnless handles bound endsFlowItem .flow
      return .mapping place .map [(key, value)] :: (← flowItems handles bound false)
    | _ => do
      let item ← node handles bound .flow
      return item :: (← flowItems handles bound false)

/-- Read the entries of a flow mapping. -/
def flowEntries (handles : Handles) : Nat → Bool → Reader (List (Node × Node))
  | 0, _ => exhausted "a flow mapping"
  | bound + 1, first => do
    match ← peek, first with
    | .flowMappingEnd, _ => do
      skip
      return []
    | .flowEntry, false => do
      skip
      match ← peek with
      | .flowMappingEnd => do
        skip
        return []
      | _ => flowPair handles bound
    | _, true => flowPair handles bound
    | _, false => unexpected "a flow mapping"

/-- Read an entry of a flow mapping and those behind it. -/
def flowPair (handles : Handles) : Nat → Reader (List (Node × Node))
  | 0 => exhausted "a flow mapping"
  | bound + 1 => do
    match ← peek with
    | .key => do
      skip
      let key ← nodeUnless handles bound (fun t => isValueMark t || endsFlowValue t) .flow
      let value ← valueUnless handles bound endsFlowValue .flow
      return (key, value) :: (← flowEntries handles bound false)
    | _ => do
      let key ← node handles bound .flow
      return (key, absent) :: (← flowEntries handles bound false)

end

/-- Read directives; the handles that they declare come first. -/
def directives : Nat → Bool → Handles → Reader Handles
  | 0, _, handles => return handles ++ commonHandles
  | bound + 1, versioned, handles => do
    match ← peek with
    | .directive (.version major) => do
      skip
      if versioned || major != 1 then throw (.refused (.directive "YAML"))
      directives bound true handles
    | .directive (.handle name expansion) => do
      skip
      if handles.any (·.1 == name) then throw (.refused (.directive "TAG"))
      directives bound versioned ((name, expansion) :: handles)
    | .directive (.other _) => do
      skip
      directives bound versioned handles
    | _ => return handles ++ commonHandles

/-- Whether the content of a document is left out before a token. -/
def endsContent : Token → Bool
  | .directive _ => true
  | .documentStart => true
  | .documentEnd => true
  | .streamEnd => true
  | _ => false

/-- Read the content of the only document, if there is one. -/
def document (bound : Nat) : Reader (Option Node) := do
  match ← peek with
  | .streamEnd => return none
  | .directive _ => explicitDocument
  | .documentStart => explicitDocument
  | _ => return some (← node commonHandles bound .block)
where
  /-- Read a document that begins with directives or a mark. -/
  explicitDocument : Reader (Option Node) := do
    let handles ← directives bound false []
    match ← peek with
    | .documentStart => do
      skip
      return some (← nodeUnless handles bound endsContent .block)
    | _ => unexpected "a document"

/-- Nothing but marks of the end of a document is left. -/
def endOfStream : Nat → Reader Unit
  | 0 => throw (.refused .secondDocument)
  | bound + 1 => do
    match ← peek with
    | .documentEnd => do
      skip
      endOfStream bound
    | .streamEnd => return ()
    | .directive _ =>
      let _ ← directives bound false []
      let _ ← peek
      throw (.refused .secondDocument)
    | _ => throw (.refused .secondDocument)

end Grammar

/-- The only document of a list of tokens, if there is one. -/
def Node.ofTokens (tokens : List Token) : Attempt Problem (Option Node) := do
  let bound := 4 * tokens.length + 8
  let reader := do
    let document ← Grammar.document bound
    Grammar.endOfStream bound
    return document
  let (document, _) ← reader.run { tokens }
  return document

end TableDdl.Yaml
