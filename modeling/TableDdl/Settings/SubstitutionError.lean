import TableDdl.Text.Quoted

/-!
# Errors of substitution

Why the value of a setting cannot be put together from other settings.
-/

namespace TableDdl

/-- What is wrong with the value of an option of a section. -/
inductive SubstitutionError where
  /-- A percent sign stands before something else than a percent sign or a parenthesis. -/
  | strayPercent (rest : String)
  /-- A reference is empty or does not end. -/
  | malformedReference (rest : String)
  /-- A reference names no option. -/
  | unknownOption (option sectionName name raw : String)
  /-- References lead on too far. -/
  | tooDeep (option sectionName raw : String)
  deriving DecidableEq, Repr

/-- How far references may lead on. -/
def maxSubstitutionDepth : Nat := 10

/-- The text of the error. -/
def SubstitutionError.message : SubstitutionError → String
  | .strayPercent rest =>
    "'%' must be followed by '%' or '(', found: " ++ Text.quoted rest
  | .malformedReference rest => "bad interpolation variable reference " ++ Text.quoted rest
  | .unknownOption option sectionName name raw =>
    "Bad value substitution: option " ++ Text.quoted option ++ " in section " ++
      Text.quoted sectionName ++ " contains an interpolation key " ++ Text.quoted name ++
      " which is not a valid option name. Raw value: " ++ Text.quoted raw
  | .tooDeep option sectionName raw =>
    "Recursion limit exceeded in value substitution: option " ++ Text.quoted option ++
      " in section " ++ Text.quoted sectionName ++
      " contains an interpolation key which cannot be substituted in " ++
      toString maxSubstitutionDepth ++ " steps. Raw value: " ++ Text.quoted raw

end TableDdl
