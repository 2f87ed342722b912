import TableDdl.Yaml.Problem

/-!
# Places in a document

The characters that matter to the layout of a document, and a cursor that goes through a text
and keeps count of characters, lines and columns. Line ends are unified before a text is read,
so a carriage return has no meaning of its own. A text that is complete has a mark behind its
last character; where a text ends without it, nothing is known of what follows.
-/

namespace TableDdl.Yaml

/-- The mark behind the last character of a text. No character of a text is equal to it. -/
def endMark : Char := '\x00'

/-- Whether the text ends at this character. -/
def isEnd (c : Char) : Bool :=
  c == endMark

/-- Whether the character ends a line. -/
def isBreak (c : Char) : Bool :=
  c == '\n' || c.toNat == 0x85 || c.toNat == 0x2028 || c.toNat == 0x2029

/-- Whether the character is a space or a tab. -/
def isSpace (c : Char) : Bool :=
  c == ' ' || c == '\t'

/-- The line end that a character stands for in a scalar: the two separators are kept. -/
def breakText (c : Char) : Char :=
  if c.toNat == 0x85 then '\n' else c

/-- Whether a line ends at this character. -/
def endsLine (c : Char) : Bool :=
  isEnd c || isBreak c

/-- Whether a line ends at this character or goes on with a space. -/
def endsField (c : Char) : Bool :=
  endsLine c || c == ' '

/-- Whether a line ends at this character or goes on with a space or a tab. -/
def endsWord (c : Char) : Bool :=
  endsLine c || isSpace c

/-- Nothing is known of the text from here on. -/
def cutOff {α : Type} : Attempt Problem α :=
  refuse .cutOff

/-- The next character. -/
def head : List Char → Attempt Problem Char
  | [] => cutOff
  | c :: _ => .ok c

/-- Divide a text after the longest run of characters of a kind, and before a character that is
known to be of another kind. -/
def runOf (kind : Char → Bool) (cs : List Char) : Attempt Problem (List Char × List Char) :=
  match cs.dropWhile kind with
  | [] => cutOff
  | rest => .ok (cs.takeWhile kind, rest)

/-- The text after the longest run of characters of a kind. -/
def afterRun (kind : Char → Bool) (cs : List Char) : Attempt Problem (List Char) :=
  Prod.snd <$> runOf kind cs

/-- Whether a text begins with three of a character, and a word ends behind them. Three characters
are looked at, as far as the text has them. -/
def atMark (mark : Char) : List Char → Attempt Problem Bool
  | a :: b :: c :: rest =>
    if a == mark && b == mark && c == mark then endsWord <$> head rest else .ok false
  | cs => if cs.any isEnd then .ok false else cutOff

/-- Whether a text begins with the mark of the start or the end of a document. -/
def atDocumentMark (cs : List Char) : Attempt Problem Bool := do
  if ← atMark '-' cs then return true else atMark '.' cs

/-- Whether the character may stand in names of anchors, directives and tag handles. -/
def isWordChar (c : Char) : Bool :=
  c.isAlphanum || c == '-' || c == '_'

/-- Whether the character may stand in a document. -/
def isAllowed (c : Char) : Bool :=
  let n := c.toNat
  n == 0x9 || n == 0xA || n == 0xD || (0x20 ≤ n && n ≤ 0x7E) || n == 0x85 ||
    (0xA0 ≤ n && n ≤ 0xD7FF) || (0xE000 ≤ n && n ≤ 0xFFFD) || 0x10000 ≤ n

/-- A place in a text: what follows it, and the counts of characters, lines and columns before
it. -/
structure Cursor where
  rest : List Char
  index : Nat := 0
  line : Nat := 0
  column : Nat := 0
  deriving Repr

namespace Cursor

/-- The place after the next character. A byte order mark takes no column. -/
def next (p : Cursor) : Cursor :=
  match p.rest with
  | [] => p
  | c :: rest =>
    if isBreak c then ⟨rest, p.index + 1, p.line + 1, 0⟩
    else ⟨rest, p.index + 1, p.line, if c.toNat == 0xFEFF then p.column else p.column + 1⟩

/-- The place after the next `n` characters. -/
def advance (p : Cursor) : Nat → Cursor
  | 0 => p
  | n + 1 => p.next.advance n

/-- The place at which a later part of the text begins. -/
def moveTo (p : Cursor) (later : List Char) : Cursor :=
  p.advance (p.rest.length - later.length)

end Cursor

end TableDdl.Yaml
