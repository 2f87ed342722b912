import TableDdl.Files.Basic

/-!
# Trees of files

A tree lists files and directories by their place below the current directory. A path leads
through directories only. Nothing is known of what lies outside the tree: the directory above it
looks empty.
-/

namespace TableDdl

/-- Files and directories by their segments. -/
structure FileTree where
  files : List (List String × List UInt8) := []
  directories : List (List String) := []
  deriving Repr, Inhabited

namespace FileTree

/-- Whether a directory stands at a place: one that is listed, or one that something is in. -/
def isDirectory (t : FileTree) (place : List String) : Bool :=
  place.isEmpty || t.directories.any place.isPrefixOf ||
    t.files.any fun (file, _) => place.isPrefixOf file && place != file

/-- The names in a directory. -/
def names (t : FileTree) (place : List String) : List String :=
  let all := t.directories ++ t.files.map (·.1)
  (all.filterMap fun other =>
    if place.isPrefixOf other then (other.drop place.length).head? else none).eraseDups

/-- Where a path leads. -/
inductive Spot where
  /-- A place below the current directory. -/
  | inside (place : List String)
  /-- A directory above the current one. -/
  | outside
  | nowhere
  /-- A segment of the path is too long for the directory in which it is looked up. -/
  | tooLong
  deriving DecidableEq

/-- Whether a segment is too long for any directory. -/
def isTooLong (segment : String) : Bool :=
  (Path.size? segment).any (Path.maxSegmentSize < ·)

/-- Go on by one segment. -/
def walk (t : FileTree) : Spot → String → Spot
  | .inside place, segment =>
    if !t.isDirectory place then .nowhere
    else if segment = ".." then (if place.isEmpty then .outside else .inside place.dropLast)
    else if isTooLong segment then .tooLong
    else .inside (place ++ [segment])
  | .outside, segment =>
    if segment = ".." then .outside else if isTooLong segment then .tooLong else .nowhere
  | .nowhere, _ => .nowhere
  | .tooLong, _ => .tooLong

/-- What stands at a spot. -/
def entryAt (t : FileTree) : Spot → Entry
  | .nowhere => .missing
  | .tooLong => .nameTooLong
  | .outside => .directory []
  | .inside place =>
    match t.files.find? fun (file, _) => file = place with
    | some (_, bytes) => .file bytes
    | none => if t.isDirectory place then .directory (t.names place) else .missing

/-- What stands at a path. -/
def lookup (t : FileTree) : Files := fun path =>
  match Path.size? path.text with
  | none => .missing
  | some size =>
    if Path.maxSize < size then .nameTooLong
    else
      let start := if path.root = "" then Spot.inside [] else .outside
      t.entryAt (path.segments.foldl t.walk start)

end FileTree

end TableDdl
