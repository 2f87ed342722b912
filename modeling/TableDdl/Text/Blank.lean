/-!
# Blank characters

The characters that are dropped from the ends of a text: the blanks of every script, the line
ends, and the four information separators.
-/

namespace TableDdl.Text

/-- Whether the character is blank. -/
def isBlank (c : Char) : Bool :=
  let n := c.toNat
  (9 ≤ n && n ≤ 13) || (28 ≤ n && n ≤ 32) || n == 133 || n == 160 || n == 5760 ||
    (8192 ≤ n && n ≤ 8202) || n == 8232 || n == 8233 || n == 8239 || n == 8287 || n == 12288

/-- Drop the blanks at the end of a list of characters. -/
def dropBlankEnd (cs : List Char) : List Char :=
  (cs.reverse.dropWhile isBlank).reverse

/-- Drop the blanks at both ends of a text. -/
def strip (s : String) : String :=
  String.ofList (dropBlankEnd (s.toList.dropWhile isBlank))

/-- Drop the blanks at the end of a text. -/
def stripEnd (s : String) : String :=
  String.ofList (dropBlankEnd s.toList)

end TableDdl.Text
