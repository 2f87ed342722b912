import TableDdl.Files.Path

/-!
# Files

Whatever is read is read through a lookup that says what stands at a path.
-/

namespace TableDdl

/-- What stands at a path. -/
inductive Entry where
  | missing
  /-- The path cannot be looked up at all. -/
  | nameTooLong
  | file (bytes : List UInt8)
  | directory (names : List String)
  deriving DecidableEq, Repr

/-- What stands at every path. -/
abbrev Files := Path → Entry

end TableDdl
