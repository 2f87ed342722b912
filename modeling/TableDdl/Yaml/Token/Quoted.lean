import TableDdl.Text.Surrogate
import TableDdl.Yaml.Cursor
import TableDdl.Yaml.Token
import TableDdl.Yaml.Token.Mark

/-!
# Quoted scalars

A scalar between single quotes knows one escape, the doubled quote; one between double quotes
knows escapes by a backslash. In both, a line end with the blanks around it is folded into a
space, and every further line end is kept. An escape may name any code point, that of a
surrogate as well; two of these in a row are not joined.
-/

namespace TableDdl.Yaml

/-- Where a reader of a quoted scalar stands. -/
inductive QuotedState where
  | plain
  /-- After spaces, the latest first. -/
  | spaces (seen : List Char)
  /-- After a line end and further ones, the latest first. -/
  | broken (first : Char) (later : List Char)
  /-- After an escaped line end and further ones, the latest first. -/
  | joined (later : List Char)
  /-- After a backslash. -/
  | escape
  /-- Inside an escape by number. -/
  | number (digits value : Nat)

/-- What the blanks that were passed over stand for. -/
def QuotedState.gap : QuotedState → List Char
  | .spaces seen => seen.reverse
  | .broken first later =>
    if first ≠ '\n' then first :: later.reverse
    else if later.isEmpty then [' ']
    else later.reverse
  | .joined later => later.reverse
  | _ => []

/-- The state after a space. -/
def QuotedState.afterSpace (c : Char) : QuotedState → QuotedState
  | .spaces seen => .spaces (c :: seen)
  | .broken first later => .broken first later
  | .joined later => .joined later
  | _ => .spaces [c]

/-- The state after a line end. -/
def QuotedState.afterBreak (c : Char) : QuotedState → QuotedState
  | .broken first later => .broken first (breakText c :: later)
  | .joined later => .joined (breakText c :: later)
  | _ => .broken (breakText c) []

/-- The character that a backslash and a letter stand for. -/
def escaped? (c : Char) : Option Nat :=
  match c with
  | '0' => some 0
  | 'a' => some 7
  | 'b' => some 8
  | 't' => some 9
  | '\t' => some 9
  | 'n' => some 10
  | 'v' => some 11
  | 'f' => some 12
  | 'r' => some 13
  | 'e' => some 27
  | ' ' => some 32
  | '"' => some 34
  | '\\' => some 92
  | '/' => some 47
  | 'N' => some 0x85
  | '_' => some 0xA0
  | 'L' => some 0x2028
  | 'P' => some 0x2029
  | _ => none

/-- How many digits follow the letter of an escape by number. -/
def escapeWidth? (c : Char) : Option Nat :=
  match c with
  | 'x' => some 2
  | 'u' => some 4
  | 'U' => some 8
  | _ => none

/-- Put characters in front of what is read. -/
def prepend (chars : List Char) :
    Attempt Problem (List Char × List Char) → Attempt Problem (List Char × List Char)
  | .ok (later, rest) => .ok (chars ++ later, rest)
  | .error failure => .error failure

/-- Read the characters of a quoted scalar up to its closing quote. -/
def readQuotedFrom (double : Bool) :
    QuotedState → List Char → Attempt Problem (List Char × List Char)
  | _, [] => cutOff
  | .escape, c :: rest =>
    match escaped? c with
    | some n => prepend [Char.ofNat n] (readQuotedFrom double .plain rest)
    | none =>
      match escapeWidth? c with
      | some width => readQuotedFrom double (.number width 0) rest
      | none => do
        if isBreak c then
          if ← atDocumentMark rest then malformed "a quoted scalar"
          else readQuotedFrom double (.joined []) rest
        else malformed "a quoted scalar"
  | .number digits value, c :: rest =>
    match hexValue? c with
    | none => malformed "a quoted scalar"
    | some d =>
      let value := value * 16 + d
      if digits > 1 then readQuotedFrom double (.number (digits - 1) value) rest
      else if value ≥ 0x80000000 then .error (.fault .beyondWords)
      else if value > 0x10FFFF then .error (.fault .beyondCharacters)
      else prepend [Text.ofCodePoint value] (readQuotedFrom double .plain rest)
  | state, c :: rest => do
    let gap := state.gap
    if isEnd c then malformed "a quoted scalar"
    else if isSpace c then readQuotedFrom double (state.afterSpace c) rest
    else if isBreak c then
      if ← atDocumentMark rest then malformed "a quoted scalar"
      else readQuotedFrom double (state.afterBreak c) rest
    else if double then
      if c = '"' then return (gap, rest)
      else if c = '\\' then prepend gap (readQuotedFrom double .escape rest)
      else prepend (gap ++ [c]) (readQuotedFrom double .plain rest)
    else if c = '\'' then
      match rest with
      | [] => cutOff
      | '\'' :: rest => prepend (gap ++ [c]) (readQuotedFrom double .plain rest)
      | _ => return (gap, rest)
    else prepend (gap ++ [c]) (readQuotedFrom double .plain rest)

/-- Read a quoted scalar after its opening quote. -/
def readQuoted (double : Bool) (cs : List Char) : Attempt Problem (String × List Char) := do
  let (text, rest) ← readQuotedFrom double .plain cs
  return (String.ofList text, rest)

end TableDdl.Yaml
