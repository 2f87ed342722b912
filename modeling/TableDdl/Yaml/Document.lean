import TableDdl.Yaml.Node.Grammar
import TableDdl.Yaml.Node.Value
import TableDdl.Yaml.Token.Lexer

/-!
# Documents

The value of a file that is a YAML document: its text is divided into tokens, these are read as
a tree of nodes, and the tree has a value. A text without any document has the value null.

Values are made of scalars, lists and mappings only. So the tags of sets, of ordered mappings and of
lists of pairs have no values here and count as undefined, and an alias has to come after the node
that it stands for, so that no value holds itself.
-/

namespace TableDdl.Yaml

/-- The value of the document in the bytes of a file. -/
def read (bytes : List UInt8) : Attempt Problem Value := do
  match ← Node.ofTokens (Token.ofSource (Source.ofBytes bytes)) with
  | none => return .null
  | some n => n.value

end TableDdl.Yaml
