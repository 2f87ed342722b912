/-!
# Ranges of code points

A character property is kept as a table of ranges of code points.
-/

namespace TableDdl.Text

/-- The first and the last code point of a range. -/
abbrev CodeRange := Nat × Nat

/-- Whether the character lies in one of the ranges. -/
def CodeRange.holds (ranges : Array CodeRange) (c : Char) : Bool :=
  ranges.any fun (first, last) => first ≤ c.toNat && c.toNat ≤ last

end TableDdl.Text
