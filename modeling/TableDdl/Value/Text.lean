import TableDdl.Fault
import TableDdl.Number.Integer
import TableDdl.Number.Shortest
import TableDdl.Value.Basic

/-!
# The texts of a value

Every value has a literal text, in which texts are quoted, and a plain text, which differs from
the literal one for texts, dates and moments only. A value that is, or holds, a whole number of
too many digits has neither.
-/

namespace TableDdl

/-- The text of a whole number. -/
def wholeText (n : Int) : Except Fault String :=
  match Number.decimalText? n with
  | some s => .ok s
  | none => .error .integerUnwritable

namespace Value

mutual

/-- The literal text of a value. -/
def literal : Value → Except Fault String
  | .null => .ok "None"
  | .bool b => .ok (if b then "True" else "False")
  | .int n => wholeText n
  | .float x => .ok x.text
  | .str s => .ok (Text.quoted s)
  | .bytes b => .ok (Text.quotedBytes b)
  | .date d => .ok d.literal
  | .moment t => .ok t.literal
  | .list items => do
    let texts ← itemLiterals items
    return "[" ++ ", ".intercalate texts ++ "]"
  | .map entries => do
    let texts ← entryLiterals entries
    return "\x7b" ++ ", ".intercalate texts ++ "\x7d"

/-- The literal texts of the items of a list. -/
def itemLiterals : List Value → Except Fault (List String)
  | [] => .ok []
  | v :: rest => do
    let text ← literal v
    return text :: (← itemLiterals rest)

/-- The literal texts of the entries of a mapping. -/
def entryLiterals : List (Value × Value) → Except Fault (List String)
  | [] => .ok []
  | (k, v) :: rest => do
    let name ← literal k
    let text ← literal v
    return (name ++ ": " ++ text) :: (← entryLiterals rest)

end

/-- The plain text of a value. -/
def text : Value → Except Fault String
  | .str s => .ok s
  | .date d => .ok d.text
  | .moment t => .ok t.text
  | v => v.literal

@[simp] theorem text_str (s : String) : text (.str s) = .ok s := rfl

end Value

end TableDdl
