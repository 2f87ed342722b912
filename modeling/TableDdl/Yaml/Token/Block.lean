import TableDdl.Yaml.Cursor
import TableDdl.Yaml.Token
import TableDdl.Yaml.Token.Mark

/-!
# Block scalars

A block scalar is made of the lines that are indented deeper than what holds it. Its header may
fix the indentation, and says whether line ends inside the scalar are folded and which of those
behind it are kept.
-/

namespace TableDdl.Yaml

/-- Which line ends behind the last line are kept. -/
inductive Chomping where
  | strip
  | clip
  | keep
  deriving DecidableEq, Repr

/-- The header of a block scalar: the chomping, and the indentation if it is fixed. -/
structure BlockHeader where
  chomping : Chomping := .clip
  increment : Option Nat := none
  deriving DecidableEq, Repr

/-- The chomping that a sign asks for. -/
def chompingOf? (c : Char) : Option Chomping :=
  match c with
  | '+' => some .keep
  | '-' => some .strip
  | _ => none

/-- Read a sign, if there is one. -/
def readChomping (cs : List Char) : Attempt Problem (Option Chomping × List Char) := do
  match chompingOf? (← head cs) with
  | some chomping => return (some chomping, cs.tail)
  | none => return (none, cs)

/-- Read the digit of an indentation, if there is one. -/
def readIncrement (cs : List Char) : Attempt Problem (Option Nat × List Char) := do
  let c ← head cs
  if c = '0' then malformed "a block scalar"
  else if c.isDigit then return (some (c.toNat - '0'.toNat), cs.tail)
  else return (none, cs)

/-- Read the sign and the digit of a header; they may come in either order. -/
def readIndicators (cs : List Char) : Attempt Problem (BlockHeader × List Char) := do
  match ← readChomping cs with
  | (some chomping, rest) =>
    let (increment, rest) ← readIncrement rest
    return (⟨chomping, increment⟩, rest)
  | (none, _) =>
    match ← readIncrement cs with
    | (some n, rest) =>
      let (chomping, rest) ← readChomping rest
      return (⟨chomping.getD .clip, some n⟩, rest)
    | (none, _) => return ({}, cs)

/-- Read the header of a block scalar and the rest of its line. -/
def readBlockHeader (cs : List Char) : Attempt Problem (BlockHeader × List Char) := do
  let (header, rest) ← readIndicators cs
  if endsField (← head rest) then return (header, ← skipLineEnd "a block scalar" rest)
  else malformed "a block scalar"

/-- What is skipped before a line: the line ends, and the column that was reached. -/
structure BlankLines where
  breaks : List Char
  column : Nat
  rest : List Char

/-- Skip empty lines, and at most `indent` spaces of every line; `column` spaces of the current
line were skipped before. -/
def skipBlankLines (indent : Nat) : Nat → List Char → Attempt Problem BlankLines
  | _, [] => cutOff
  | column, c :: rest => do
    if c = ' ' ∧ column < indent then skipBlankLines indent (column + 1) rest
    else if isBreak c then
      let later ← skipBlankLines indent 0 rest
      return { later with breaks := breakText c :: later.breaks }
    else return ⟨[], column, c :: rest⟩

/-- Skip empty lines and all spaces; the greatest column that was reached comes first. -/
def skipIndentation (greatest : Nat) : Nat → List Char → Attempt Problem (Nat × BlankLines)
  | _, [] => cutOff
  | column, c :: rest => do
    if c = ' ' then skipIndentation (max greatest (column + 1)) (column + 1) rest
    else if isBreak c then
      let (greatest, later) ← skipIndentation greatest 0 rest
      return (greatest, { later with breaks := breakText c :: later.breaks })
    else return (greatest, ⟨[], column, c :: rest⟩)

/-- The lines of a block scalar: their text, the end of the last line, the line ends behind it,
and the rest. -/
structure BlockText where
  text : List Char
  lastBreak : List Char
  trailing : List Char
  rest : List Char

/-- Whether a text begins with a space. -/
def startsWithSpace : List Char → Bool
  | [] => false
  | c :: _ => isSpace c

/-- What stands between two lines in a folded scalar and in others. -/
def lineJoint (folded : Bool) (ending : Char) (line : List Char) (later : BlankLines) :
    List Char :=
  if folded ∧ breakText ending = '\n' ∧
      !startsWithSpace line ∧ !startsWithSpace later.rest then
    if later.breaks.isEmpty then [' '] else []
  else [breakText ending]

/-- Whether a line of a block scalar begins behind what was skipped. -/
def BlankLines.reaches (before : BlankLines) (indent : Nat) : Bool :=
  before.column = indent && !before.rest.head?.any isEnd

/-- Read the lines of a block scalar. `before` is what was skipped before the first of them, and
`bound` limits their number. -/
def readBlockLines (folded : Bool) (indent : Nat) :
    Nat → BlankLines → Attempt Problem BlockText
  | 0, before => .ok ⟨[], [], before.breaks, before.rest⟩
  | bound + 1, before => do
    if before.reaches indent then
      let (line, behind) ← runOf (!endsLine ·) before.rest
      match behind with
      | [] => cutOff
      | ending :: rest =>
        if isEnd ending then return ⟨before.breaks ++ line, [], [], behind⟩
        else
          let later ← skipBlankLines indent 0 rest
          if later.reaches indent then
            let more ← readBlockLines folded indent bound later
            return { more with
              text := before.breaks ++ line ++ lineJoint folded ending line later ++ more.text }
          else return ⟨before.breaks ++ line, [breakText ending], later.breaks, later.rest⟩
    else return ⟨[], [], before.breaks, before.rest⟩

/-- The text of a block scalar after chomping. -/
def BlockText.chomped (b : BlockText) : Chomping → List Char
  | .strip => b.text
  | .clip => b.text ++ b.lastBreak
  | .keep => b.text ++ b.lastBreak ++ b.trailing

/-- Read a block scalar after its indicator; `least` is the least indentation of its lines. -/
def readBlock (folded : Bool) (least : Nat) (cs : List Char) :
    Attempt Problem (String × List Char) := do
  let (header, rest) ← readBlockHeader cs
  let (indent, before) ←
    match header.increment with
    | some n => (least + n - 1, ·) <$> skipBlankLines (least + n - 1) 0 rest
    | none => do
      let (greatest, before) ← skipIndentation 0 0 rest
      pure (max least greatest, before)
  let block ← readBlockLines folded indent rest.length before
  return (String.ofList (block.chomped header.chomping), block.rest)

end TableDdl.Yaml
