import TableDdl.Yaml.Source
import TableDdl.Yaml.Token.Block
import TableDdl.Yaml.Token.Mark
import TableDdl.Yaml.Token.Plain
import TableDdl.Yaml.Token.Quoted

/-!
# Dividing a document into tokens

A text is divided from front to back. Two things are kept track of: the columns at which block
collections were opened, and the tokens that may turn out to be keys. A key without a mark of its
own is recognised by the colon behind it only; the mark is then put in front of it, and it may
open a mapping there. Such a key lies on one line and is at most 1024 characters long. Hence a
token can be used only when none of those up to it may turn out to be a key any more.
-/

namespace TableDdl.Yaml

/-- A token that may turn out to be a key: the depth of flow collections around it, the number of
tokens before it, whether it must be one, and its place. -/
structure KeyCandidate where
  depth : Nat
  position : Nat
  required : Bool
  index : Nat
  line : Nat
  column : Nat
  deriving Repr

/-- How far a text is divided. Tokens and columns have the latest one first. -/
structure Lexer where
  cursor : Cursor
  tokens : List Token := []
  count : Nat := 0
  depth : Nat := 0
  indents : List Nat := []
  keyAllowed : Bool := true
  candidates : List KeyCandidate := []
  finished : Bool := false

namespace Lexer

/-- Add a token. -/
def emit (l : Lexer) (t : Token) : Lexer :=
  { l with tokens := t :: l.tokens, count := l.count + 1 }

/-- Whether block structure matters here. -/
def inBlock (l : Lexer) : Bool :=
  l.depth == 0

/-- The column that deeper lines have to pass, counted from one. -/
def leastColumn (l : Lexer) : Nat :=
  match l.indents with
  | [] => 0
  | column :: _ => column + 1

/-- Close the block collections that were opened after a column; `none` closes all. -/
def closeBlocks (l : Lexer) (column : Option Nat) : Lexer :=
  if !l.inBlock then l
  else
    let opened := fun c => column.all (· < c)
    let closed := (l.indents.takeWhile opened).map fun _ => Token.blockEnd
    { l with
      tokens := closed ++ l.tokens
      count := l.count + closed.length
      indents := l.indents.dropWhile opened }

/-- Open a block collection at the current column, unless one is open there. -/
def openBlock (l : Lexer) (t : Token) : Lexer :=
  if l.inBlock && l.leastColumn ≤ l.cursor.column then
    { l.emit t with indents := l.cursor.column :: l.indents }
  else l

/-- Drop a candidate; one that must be a key cannot be dropped. -/
def dropCandidate (c : KeyCandidate) : Attempt Problem Unit :=
  if c.required then refuse .keyWithoutColon else .ok ()

/-- Whether a candidate can still become a key here. -/
def isOpen (l : Lexer) (c : KeyCandidate) : Bool :=
  c.line == l.cursor.line && l.cursor.index - c.index ≤ 1024

/-- Drop the candidates that are too far away. -/
def dropStale (l : Lexer) : Attempt Problem Lexer := do
  (l.candidates.filter (!l.isOpen ·)).forM dropCandidate
  return { l with candidates := l.candidates.filter l.isOpen }

/-- Drop the candidate at the current depth. -/
def dropCurrent (l : Lexer) : Attempt Problem Lexer := do
  (l.candidates.filter (·.depth == l.depth)).forM dropCandidate
  return { l with candidates := l.candidates.filter (·.depth != l.depth) }

/-- Note that the next token may turn out to be a key. -/
def noteCandidate (l : Lexer) : Attempt Problem Lexer := do
  if l.keyAllowed then
    let l ← l.dropCurrent
    let p := l.cursor
    let required := l.inBlock && l.indents.head? == some p.column
    return { l with candidates :=
      ⟨l.depth, l.count, required, p.index, p.line, p.column⟩ :: l.candidates }
  else return l

/-- Skip blanks, comments and line ends; whether a line ended is returned as well. -/
def skipLayout (comment broke : Bool) : List Char → Attempt Problem (List Char × Bool)
  | [] => cutOff
  | c :: rest =>
    if isBreak c then skipLayout false true rest
    else if comment && !isEnd c then skipLayout true broke rest
    else if c == ' ' then skipLayout false broke rest
    else if c == '#' then skipLayout true broke rest
    else .ok (c :: rest, broke)

/-- Go to the next token. In block structure a new line may begin with a key. -/
def toToken (l : Lexer) : Attempt Problem Lexer := do
  let cursor :=
    match l.cursor.rest with
    | '\ufeff' :: _ => if l.cursor.index == 0 then l.cursor.next else l.cursor
    | _ => l.cursor
  let (rest, broke) ← skipLayout false false cursor.rest
  return { l with
    cursor := cursor.moveTo rest, keyAllowed := l.keyAllowed || (broke && l.inBlock) }

/-- Add a token that takes the given number of characters. -/
def take (l : Lexer) (length : Nat) (t : Token) : Lexer :=
  { l.emit t with cursor := l.cursor.advance length }

/-- The end of the text. -/
def finish (l : Lexer) : Attempt Problem Lexer := do
  let l ← (l.closeBlocks none).dropCurrent
  return { l.emit .streamEnd with finished := true }

/-- A mark between documents. -/
def documentMark (l : Lexer) (t : Token) : Attempt Problem Lexer := do
  let l ← (l.closeBlocks none).dropCurrent
  return { l.take 3 t with keyAllowed := false }

/-- A directive. -/
def directive (l : Lexer) : Attempt Problem Lexer := do
  let l ← (l.closeBlocks none).dropCurrent
  let (d, rest) ← readDirective l.cursor.rest.tail
  return { l.emit (.directive d) with cursor := l.cursor.moveTo rest, keyAllowed := false }

/-- The start of a flow collection. -/
def openFlow (l : Lexer) (t : Token) : Attempt Problem Lexer := do
  let l ← l.noteCandidate
  return { l.take 1 t with depth := l.depth + 1, keyAllowed := true }

/-- The end of a flow collection. -/
def closeFlow (l : Lexer) (t : Token) : Attempt Problem Lexer := do
  if l.inBlock then refuse (.misplaced "ends of flow collections")
  let l ← l.dropCurrent
  return { l.take 1 t with depth := l.depth - 1, keyAllowed := false }

/-- The comma between the entries of a flow collection. -/
def flowEntry (l : Lexer) : Attempt Problem Lexer := do
  let l ← l.dropCurrent
  return { l.take 1 .flowEntry with keyAllowed := true }

/-- The dash in front of an entry of a block sequence. -/
def blockEntry (l : Lexer) : Attempt Problem Lexer := do
  if l.inBlock && !l.keyAllowed then refuse (.misplaced "sequence entries")
  let l ← (l.openBlock .blockSequenceStart).dropCurrent
  return { l.take 1 .blockEntry with keyAllowed := true }

/-- The question mark in front of a key. -/
def key (l : Lexer) : Attempt Problem Lexer := do
  if l.inBlock && !l.keyAllowed then refuse (.misplaced "mapping keys")
  let l ← (l.openBlock .blockMappingStart).dropCurrent
  return { l.take 1 .key with keyAllowed := l.inBlock }

/-- Put the mark of a key in front of a candidate, and the start of a mapping if none is open at
its column. -/
def markKey (l : Lexer) (c : KeyCandidate) : Lexer :=
  let opens := l.inBlock && l.leastColumn ≤ c.column
  let marks := if opens then [Token.key, .blockMappingStart] else [.key]
  let after := l.count - c.position
  { l with
    tokens := l.tokens.take after ++ marks ++ l.tokens.drop after
    count := l.count + marks.length
    indents := if opens then c.column :: l.indents else l.indents
    candidates := l.candidates.filter (·.depth != l.depth)
    keyAllowed := false }

/-- The colon in front of a value. -/
def value (l : Lexer) : Attempt Problem Lexer := do
  match l.candidates.find? (·.depth == l.depth) with
  | some c => return (l.markKey c).take 1 .value
  | none =>
    if l.inBlock && !l.keyAllowed then refuse (.misplaced "mapping values")
    let l := l.openBlock .blockMappingStart
    return { l.take 1 .value with keyAllowed := l.inBlock }

/-- A token that may turn out to be a key, after the reader of its text behind its first
character. -/
def keyLike (l : Lexer) (reader : List Char → Attempt Problem (Token × List Char)) :
    Attempt Problem Lexer := do
  let l ← l.noteCandidate
  let (t, rest) ← reader l.cursor.rest.tail
  return { l.emit t with cursor := l.cursor.moveTo rest, keyAllowed := false }

/-- Make a token of what is read. -/
def readAs {α : Type} (make : α → Token)
    (reader : List Char → Attempt Problem (α × List Char))
    (cs : List Char) : Attempt Problem (Token × List Char) := do
  let (a, rest) ← reader cs
  return (make a, rest)

/-- A block scalar. -/
def block (l : Lexer) (folded : Bool) : Attempt Problem Lexer := do
  let l ← l.dropCurrent
  let (text, rest) ← readBlock folded (max 1 l.leastColumn) l.cursor.rest.tail
  return { l.emit (.scalar text false) with cursor := l.cursor.moveTo rest, keyAllowed := true }

/-- A plain scalar. A key may follow it if a line ended behind it. -/
def plain (l : Lexer) : Attempt Problem Lexer := do
  let l ← l.noteCandidate
  let cs := l.cursor.rest
  let scalar ← readPlain (!l.inBlock) l.leastColumn cs.length cs
  return { l.emit (.scalar (String.ofList scalar.text) true) with
    cursor := l.cursor.moveTo scalar.rest, keyAllowed := scalar.broke }

/-- Whether a plain scalar may begin with this character before this text. -/
def startsPlain (l : Lexer) (c : Char) (rest : List Char) : Attempt Problem Bool :=
  if isSpace c || isBreak c || "-?:,[]\x7b\x7d#&*!|>'\"%@`".toList.contains c then
    (fun d => !endsWord d && (c == '-' || (l.inBlock && (c == '?' || c == ':')))) <$> head rest
  else .ok true

/-- Whether a text begins with a mark of a document, which stands at the margin only. -/
def atMargin (l : Lexer) (mark : Char) (cs : List Char) : Attempt Problem Bool :=
  if l.cursor.column == 0 && cs.head? == some mark then atMark mark cs else .ok false

/-- Whether an indicator that has to be a word of its own in block structure stands here. A dash
has to be one everywhere. -/
def isIndicator (l : Lexer) (indicator c : Char) (rest : List Char) : Attempt Problem Bool :=
  if c != indicator then .ok false
  else if c == '-' || l.inBlock then endsWord <$> head rest
  else .ok true

/-- The next token, which begins with the given character. -/
def dispatch (l : Lexer) (c : Char) (rest : List Char) : Attempt Problem Lexer := do
  if c == '%' && l.cursor.column == 0 then l.directive
  else if ← l.atMargin '-' (c :: rest) then l.documentMark .documentStart
  else if ← l.atMargin '.' (c :: rest) then l.documentMark .documentEnd
  else if c == '[' then l.openFlow .flowSequenceStart
  else if c == '\x7b' then l.openFlow .flowMappingStart
  else if c == ']' then l.closeFlow .flowSequenceEnd
  else if c == '\x7d' then l.closeFlow .flowMappingEnd
  else if c == ',' then l.flowEntry
  else if ← l.isIndicator '-' c rest then l.blockEntry
  else if ← l.isIndicator '?' c rest then l.key
  else if ← l.isIndicator ':' c rest then l.value
  else if c == '*' then l.keyLike (readAs .alias readName)
  else if c == '&' then l.keyLike (readAs .anchor readName)
  else if c == '!' then l.keyLike (readAs .tag readTag)
  else if c == '|' && l.inBlock then l.block false
  else if c == '>' && l.inBlock then l.block true
  else if c == '\'' then l.keyLike (readAs (.scalar · false) (readQuoted false))
  else if c == '"' then l.keyLike (readAs (.scalar · false) (readQuoted true))
  else if ← l.startsPlain c rest then l.plain
  else refuse (.token c)

/-- The next token. -/
def step (l : Lexer) : Attempt Problem Lexer := do
  let l ← (← l.dropStale).toToken
  let l ← l.dropStale
  let l := l.closeBlocks (some l.cursor.column)
  match l.cursor.rest with
  | [] => cutOff
  | c :: rest => if isEnd c then l.finish else l.dispatch c rest

/-- The tokens that can be used: those before the first one that may still turn out to be a
key. -/
def usable (l : Lexer) : List Token :=
  match ((l.candidates.filter l.isOpen).map (·.position)).min? with
  | none => l.tokens.reverse
  | some position => l.tokens.reverse.take position

/-- The tokens when dividing goes no further for the given failure. -/
def stopped (l : Lexer) (failure : Failure Problem) : List Token :=
  l.usable ++ [.failed failure]

/-- Divide the rest of the text; `atEnd` is met where its characters end, and `bound` limits the
number of steps. -/
def run (atEnd : Failure Problem) : Nat → Lexer → List Token
  | 0, l => l.tokens.reverse
  | bound + 1, l =>
    if l.finished then l.tokens.reverse
    else
      match l.step with
      | .ok next => if next.cursor.rest.isEmpty then l.stopped atEnd else run atEnd bound next
      | .error (.refused .cutOff) => l.stopped atEnd
      | .error failure => l.stopped failure

end Lexer

/-- The tokens of a source. -/
def Token.ofSource (s : Source) : List Token :=
  Lexer.run s.failure (s.chars.length + 2) { cursor := { rest := s.chars } }

end TableDdl.Yaml
