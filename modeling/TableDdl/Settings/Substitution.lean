import TableDdl.Settings.SubstitutionError
import TableDdl.Text.Casing

/-!
# Substitution

A value may refer to other options by their names between `%(` and `)s`. A doubled percent sign
stands for itself. What a reference stands for may hold references in turn, but only so deep.
-/

namespace TableDdl.Settings

/-- A piece of a value. The last two end the list of pieces. -/
inductive Piece where
  | char (c : Char)
  | reference (name : String)
  | stray (rest : String)
  | malformed (rest : String)
  deriving DecidableEq, Repr

/-- The pieces of a value. Inside a reference, the name so far, the latest character first, and
the text from its percent sign on are given. -/
def pieces : Option (List Char × List Char) → List Char → List Piece
  | none, [] => []
  | none, '%' :: '%' :: rest => .char '%' :: pieces none rest
  | none, '%' :: '(' :: rest => pieces (some ([], '%' :: '(' :: rest)) rest
  | none, c :: rest =>
    if c = '%' then [.stray (String.ofList (c :: rest))] else .char c :: pieces none rest
  | some (_, start), [] => [.malformed (String.ofList start)]
  | some (name, start), c :: rest =>
    if c ≠ ')' then pieces (some (c :: name, start)) rest
    else
      match name, rest with
      | _ :: _, 's' :: rest => .reference (String.ofList name.reverse) :: pieces none rest
      | _, _ => [.malformed (String.ofList start)]

/-- An option whose value is put together, and what its names stand for. -/
structure Substitution where
  sectionName : String
  option : String
  raw : String
  get? : String → Option String

namespace Substitution

/-- Put a value together; references may lead on `depth - 1` times. -/
def expand (s : Substitution) : Nat → String → Except SubstitutionError String
  | 0, _ => .error (.tooDeep s.option s.sectionName s.raw)
  | depth + 1, value => do
    let parts ← (pieces none value.toList).mapM fun piece =>
      match piece with
      | .char c => .ok c.toString
      | .stray rest => .error (.strayPercent rest)
      | .malformed rest => .error (.malformedReference rest)
      | .reference name =>
        let name := Text.lower name
        match s.get? name with
        | none => .error (.unknownOption s.option s.sectionName name s.raw)
        | some found =>
          if found.toList.contains '%' then s.expand depth found else .ok found
    return String.join parts

/-- The value of the option. -/
def value (s : Substitution) : Except SubstitutionError String :=
  s.expand maxSubstitutionDepth s.raw

end Substitution

end TableDdl.Settings
