import TableDdl.Text.Surrogate

/-!
# Paths

A path in its shortest form: a root if it is absolute, and the segments between its slashes.
Empty segments and single dots do not matter; double dots do, because they undo a segment only
where that is a directory.
-/

namespace TableDdl

/-- A path. -/
structure Path where
  root : String := ""
  segments : List String := []
  deriving DecidableEq, Repr

namespace Path

/-- Divide a text at its slashes. -/
def splitSlashes : List Char → List (List Char)
  | [] => [[]]
  | c :: rest =>
    if c = '/' then [] :: splitSlashes rest
    else
      match splitSlashes rest with
      | [] => [[c]]
      | segment :: segments => (c :: segment) :: segments

/-- The root of an absolute path. Exactly two slashes are a root of their own. -/
def rootOf : List Char → String
  | '/' :: '/' :: '/' :: _ => "/"
  | '/' :: '/' :: _ => "//"
  | '/' :: _ => "/"
  | _ => ""

/-- The path that a text names. -/
def ofText (s : String) : Path :=
  { root := rootOf s.toList
    segments :=
      ((splitSlashes s.toList).filter fun cs => cs ≠ [] ∧ cs ≠ ['.']).map String.ofList }

/-- The text of a path. -/
def text (p : Path) : String :=
  let s := p.root ++ "/".intercalate p.segments
  if s = "" then "." else s

/-- How many bytes a character of a path takes, if it can stand in one. A surrogate from the range
that stands for undecoded bytes takes one byte. -/
def bytesOf? (c : Char) : Option Nat :=
  if c = '\x00' then none
  else if Text.isCarrier c then
    if 0xDC80 ≤ Text.codePoint c ∧ Text.codePoint c ≤ 0xDCFF then some 1 else none
  else some c.utf8Size

/-- How many bytes a text of a path takes, if it can stand in one. -/
def size? (s : String) : Option Nat :=
  (s.toList.mapM bytesOf?).map fun sizes => sizes.foldl (· + ·) 0

/-- The most bytes that a segment may take. -/
def maxSegmentSize : Nat := 255

/-- The most bytes that a path may take. -/
def maxSize : Nat := 4095

/-- The path of an entry of a directory. -/
def join (p : Path) (name : String) : Path :=
  { p with segments := p.segments ++ [name] }

end Path

end TableDdl
