import TableDdl.Failure

/-!
# Problems of a document

Why a text is no YAML document, or none whose nodes have values.
-/

namespace TableDdl.Yaml

/-- Why a text is refused. -/
inductive Problem where
  /-- The text has a character that may not stand in a document. -/
  | character (code : Nat)
  /-- The text ends before its last character. -/
  | cutOff
  /-- No token starts here. -/
  | token (found : Char)
  /-- A token of this description is not well formed. -/
  | malformed (what : String)
  /-- A key is not followed by a colon. -/
  | keyWithoutColon
  /-- Something may not stand at this place of a line. -/
  | misplaced (what : String)
  /-- The nodes do not fit together. -/
  | unexpected (what : String)
  /-- A directive is repeated or asks for another version. -/
  | directive (name : String)
  /-- The handle of a tag was not declared. -/
  | undefinedHandle (handle : String)
  /-- An alias has no anchor before it. -/
  | undefinedAlias (name : String)
  /-- An anchor is set twice. -/
  | duplicateAnchor (name : String)
  /-- There is more than one document. -/
  | secondDocument
  /-- Nodes with this tag have no values. -/
  | undefinedTag (tag : String)
  /-- A node of one kind stands where its tag or its place wants another. -/
  | wrongKind (wanted : String)
  /-- A list or a mapping stands as a key. -/
  | unhashableKey
  /-- A scalar that is marked as base 64 is not. -/
  | base64
  deriving DecidableEq, Repr

/-- The text of a problem. -/
def Problem.message : Problem → String
  | .character code => "special characters are not allowed: " ++ toString code
  | .cutOff => "found the end of the text before its last character"
  | .token found => "found character " ++ found.toString ++ " that cannot start any token"
  | .malformed what => "while scanning " ++ what ++ ": not well formed"
  | .keyWithoutColon => "while scanning a simple key: could not find expected ':'"
  | .misplaced what => what ++ " are not allowed here"
  | .unexpected what => "while parsing " ++ what ++ ": unexpected token"
  | .directive name => "the directive " ++ name ++ " is repeated or not supported"
  | .undefinedHandle handle => "found undefined tag handle " ++ handle
  | .undefinedAlias name => "found undefined alias " ++ name
  | .duplicateAnchor name => "found duplicate anchor " ++ name
  | .secondDocument => "expected a single document in the stream"
  | .undefinedTag tag => "could not determine a constructor for the tag " ++ tag
  | .wrongKind wanted => "expected " ++ wanted
  | .unhashableKey => "while constructing a mapping: found unhashable key"
  | .base64 => "failed to decode base64 data"

end TableDdl.Yaml
