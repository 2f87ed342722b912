import TableDdl.Yaml.Problem

/-!
# Tokens

The tokens that a document is made of. Indentation is turned into tokens as well: a block
collection is opened and closed as a flow collection is.
-/

namespace TableDdl.Yaml

/-- A line that instructs the reader of the document. -/
inductive Directive where
  /-- The version of the language, by its first number. -/
  | version (major : Nat)
  /-- What a handle of tags stands for. -/
  | handle (name expansion : String)
  | other (name : String)
  deriving DecidableEq, Repr

/-- A tag as it is written: what a handle stands for comes before the suffix. -/
structure TagMark where
  handle : Option String
  suffix : String
  deriving DecidableEq, Repr

/-- A token. The last two end every list of tokens. -/
inductive Token where
  | directive (d : Directive)
  | documentStart
  | documentEnd
  | blockSequenceStart
  | blockMappingStart
  | blockEnd
  | flowSequenceStart
  | flowSequenceEnd
  | flowMappingStart
  | flowMappingEnd
  | blockEntry
  | flowEntry
  | key
  | value
  | alias (name : String)
  | anchor (name : String)
  | tag (mark : TagMark)
  | scalar (text : String) (plain : Bool)
  | streamEnd
  /-- The text cannot be divided further. -/
  | failed (failure : Failure Problem)
  deriving Repr

/-- A token of this description is not well formed. -/
def malformed {α : Type} (what : String) : Attempt Problem α :=
  refuse (.malformed what)

end TableDdl.Yaml
