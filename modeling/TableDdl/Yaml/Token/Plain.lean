import TableDdl.Yaml.Cursor
import TableDdl.Yaml.Token

/-!
# Plain scalars

A scalar without quotes goes on until a colon at the end of a word, a comment, or a line that is
not indented deeply enough. Inside flow collections their punctuation ends it as well.
-/

namespace TableDdl.Yaml

/-- Whether the character belongs to the punctuation of flow collections. -/
def isFlowChar (c : Char) : Bool :=
  ",[]\x7b\x7d".toList.contains c

/-- Whether a run of a plain scalar ends before this text. -/
def endsRun (flow : Bool) : List Char → Attempt Problem Bool
  | [] => cutOff
  | c :: rest =>
    if endsWord c then .ok true
    else if c == ':' then (fun d => endsWord d || (flow && isFlowChar d)) <$> head rest
    else .ok (flow && (c == '?' || isFlowChar c))

/-- Divide a text after a run. -/
def takeRun (flow : Bool) : List Char → Attempt Problem (List Char × List Char)
  | [] => cutOff
  | c :: rest => do
    if ← endsRun flow (c :: rest) then return ([], c :: rest)
    else
      let (run, rest) ← takeRun flow rest
      return (c :: run, rest)

/-- The blanks after a run: what they stand for between two runs, the column if a line ended,
and the rest. Nothing stands for blanks that end the scalar. -/
structure PlainGap where
  text : List Char
  column : Option Nat
  rest : List Char

/-- Skip the lines after a line end up to the next character: the further line ends, the column,
and the rest. The mark of a document ends the scalar. -/
def skipPlainLines : Nat → List Char → Attempt Problem (Option (List Char) × Nat × List Char)
  | _, [] => cutOff
  | column, c :: rest => do
    if c = ' ' then skipPlainLines (column + 1) rest
    else if isBreak c then
      if ← atDocumentMark rest then return (none, 0, rest)
      else
        let (breaks, later) ← skipPlainLines 0 rest
        return (breaks.map (breakText c :: ·), later)
    else return (some [], column, c :: rest)

/-- The blanks at the front of a text. -/
def plainGap (cs : List Char) : Attempt Problem PlainGap := do
  let (spaces, later) ← runOf (· == ' ') cs
  match later with
  | [] => cutOff
  | c :: rest =>
    if isBreak c then
      if ← atDocumentMark rest then return ⟨[], some 0, rest⟩
      else
        let (breaks, column, rest) ← skipPlainLines 0 rest
        return match breaks with
          | none => ⟨[], some column, rest⟩
          | some breaks =>
            if breakText c ≠ '\n' then ⟨breakText c :: breaks, some column, rest⟩
            else if breaks.isEmpty then ⟨[' '], some column, rest⟩
            else ⟨breaks, some column, rest⟩
    else return ⟨spaces, none, later⟩

/-- A plain scalar: its text, whether a line ended behind it, and the rest. -/
structure PlainText where
  text : List Char
  broke : Bool
  rest : List Char

/-- Whether a plain scalar goes on after blanks; its lines start at the column `least` or
later. -/
def PlainGap.continues (flow : Bool) (least : Nat) (gap : PlainGap) : Attempt Problem Bool := do
  if gap.text.isEmpty then return false
  else if (← head gap.rest) == '#' then return false
  else if flow || gap.column.all (least ≤ ·) then return !(← endsRun flow gap.rest)
  else return false

/-- Read a plain scalar; `bound` limits the number of its runs. -/
def readPlain (flow : Bool) (least : Nat) : Nat → List Char → Attempt Problem PlainText
  | 0, cs => .ok ⟨[], false, cs⟩
  | bound + 1, cs => do
    let (run, rest) ← takeRun flow cs
    let gap ← plainGap rest
    if ← gap.continues flow least then
      let more ← readPlain flow least bound gap.rest
      return { more with text := run ++ gap.text ++ more.text }
    else return ⟨run, gap.column.isSome, gap.rest⟩

end TableDdl.Yaml
