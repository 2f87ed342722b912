import TableDdl.Files.Path

/-!
# The choice of a settings file

Which settings file is to be read. A file that is asked for has to be there, whether or not it is
asked for by its path.
-/

namespace TableDdl

/-- Which settings file is asked for. -/
inductive FileChoice where
  /-- None in particular: the usual one, if it is there. -/
  | usual
  /-- The usual one, which has to be there. -/
  | required
  /-- The one at a path. -/
  | named (path : Path)
  deriving DecidableEq, Repr, Inhabited

namespace FileChoice

/-- The path that is asked for, if there is one. -/
def path? : FileChoice → Option Path
  | .named path => some path
  | _ => none

/-- Whether a file is asked for. -/
def isAsked : FileChoice → Bool
  | .usual => false
  | _ => true

/-- A file that is asked for by its path is asked for. -/
theorem isAsked_of_path? {c : FileChoice} {path : Path} (h : c.path? = some path) :
    c.isAsked = true := by
  cases c <;> simp_all [path?, isAsked]

end FileChoice

end TableDdl
