import TableDdl.Number.Integer
import TableDdl.Text.Utf8
import TableDdl.Yaml.Cursor
import TableDdl.Yaml.Token

/-!
# Directives, tags and names

Readers of the tokens that are marks on a document or on a node.
-/

namespace TableDdl.Yaml

/-- The rest of a text after the spaces, the comment and the end of the current line. -/
def skipLineEnd (what : String) (cs : List Char) : Attempt Problem (List Char) := do
  let rest ← afterRun (· == ' ') cs
  let rest ←
    match rest with
    | '#' :: _ => afterRun (!endsLine ·) rest
    | _ => pure rest
  match rest with
  | [] => cutOff
  | c :: later =>
    if isBreak c then return later else if isEnd c then return rest else malformed what

/-- Whether the character may stand in the suffix of a tag. -/
def isTagChar (c : Char) : Bool :=
  isWordChar c || ";/?:@&=+$,.!~*'()[]%".toList.contains c

/-- The value of a hexadecimal digit. -/
def hexValue? (c : Char) : Option Nat :=
  if '0' ≤ c ∧ c ≤ '9' then some (c.toNat - '0'.toNat)
  else if 'a' ≤ c ∧ c ≤ 'f' then some (c.toNat - 'a'.toNat + 10)
  else if 'A' ≤ c ∧ c ≤ 'F' then some (c.toNat - 'A'.toNat + 10)
  else none

/-- The value of a character that has to be a hexadecimal digit of a tag. -/
def tagDigit (c : Char) : Attempt Problem Nat :=
  match hexValue? c with
  | some n => .ok n
  | none => malformed "a tag"

/-- The characters that the bytes of a tag stand for. -/
def tagChars (bytes : List UInt8) : Attempt Problem (List Char) :=
  match Text.Utf8.decode bytes with
  | ⟨chars, none⟩ => .ok chars
  | ⟨_, some _⟩ => malformed "a tag"

/-- Read the characters of a suffix. A percent sign announces a byte in hexadecimal digits, and
the bytes of a run of these, `bytes` so far, stand for characters together. -/
def readSuffixChars : List UInt8 → List Char → Attempt Problem (List Char × List Char)
  | _, [] => cutOff
  | bytes, '%' :: a :: b :: rest => do
    let high ← tagDigit a
    let low ← tagDigit b
    readSuffixChars (bytes ++ [UInt8.ofNat (high * 16 + low)]) rest
  | bytes, c :: rest => do
    if c == '%' then
      let a ← head rest
      let _ ← tagDigit a
      cutOff
    else
      let decoded ← tagChars bytes
      if isTagChar c then
        let (later, rest) ← readSuffixChars [] rest
        return (decoded ++ c :: later, rest)
      else return (decoded, c :: rest)

/-- Read the suffix of a tag. -/
def readSuffix (cs : List Char) : Attempt Problem (String × List Char) := do
  if isTagChar (← head cs) then
    let (chars, rest) ← readSuffixChars [] cs
    return (String.ofList chars, rest)
  else malformed "a tag"

/-- Read the handle of a tag. -/
def readHandle (cs : List Char) : Attempt Problem (String × List Char) := do
  match cs with
  | [] => cutOff
  | '!' :: rest =>
    if (← head rest) == ' ' then return ("!", rest)
    else
      let (word, later) ← runOf isWordChar rest
      match later with
      | '!' :: after => return (String.ofList ('!' :: (word ++ ['!'])), after)
      | _ => malformed "a tag"
  | _ => malformed "a tag"

/-- Read a full name behind its opening angle bracket. -/
def readFullName (cs : List Char) : Attempt Problem (TagMark × List Char) := do
  let (suffix, rest) ← readSuffix cs
  match rest with
  | [] => cutOff
  | '>' :: rest => return (⟨none, suffix⟩, rest)
  | _ => malformed "a tag"

/-- Read the parts of a tag behind its exclamation mark: a full name between angle brackets,
nothing, or a suffix with a handle before it. -/
def readTagParts (cs : List Char) : Attempt Problem (TagMark × List Char) := do
  match cs with
  | [] => cutOff
  | '<' :: rest => readFullName rest
  | c :: _ =>
    if endsWord c then return (⟨none, "!"⟩, cs)
    else
      let later ← afterRun (fun c => !endsField c && c != '!') cs
      let (handle, rest) ←
        if later.head? == some '!' then readHandle ('!' :: cs) else .ok ("!", cs)
      let (suffix, rest) ← readSuffix rest
      return (⟨some handle, suffix⟩, rest)

/-- Read a tag behind its exclamation mark. A space or the end of the line follows it. -/
def readTag (cs : List Char) : Attempt Problem (TagMark × List Char) := do
  let (mark, rest) ← readTagParts cs
  if endsField (← head rest) then return (mark, rest) else malformed "a tag"

/-- Whether the name of an anchor or an alias may end at this character. -/
def endsName (c : Char) : Bool :=
  endsWord c || "?:,]\x7d%@`".toList.contains c

/-- Read the name of an anchor or an alias. -/
def readName (cs : List Char) : Attempt Problem (String × List Char) := do
  let (name, rest) ← runOf isWordChar cs
  if name.isEmpty || !endsName (← head rest) then malformed "a name"
  else return (String.ofList name, rest)

/-- Read a decimal number of a directive. -/
def readNumber (cs : List Char) : Attempt Problem (Nat × List Char) := do
  let (digits, rest) ← runOf Char.isDigit cs
  if digits.isEmpty then malformed "a directive"
  else if digits.length > Number.maxDigits then .error (.fault (.integerTooLong digits.length))
  else return (digits.foldl (fun n d => n * 10 + (d.toNat - '0'.toNat)) 0, rest)

/-- A directive with what follows it, if its field ends there. -/
def endOfField (d : Directive) (rest : List Char) : Attempt Problem (Directive × List Char) := do
  if endsField (← head rest) then return (d, rest) else malformed "a directive"

/-- Read the numbers of a version; the first of them is kept. -/
def readVersion (cs : List Char) : Attempt Problem (Directive × List Char) := do
  let (major, rest) ← readNumber (← afterRun (· == ' ') cs)
  match rest with
  | '.' :: rest => do
    let (_, rest) ← readNumber rest
    endOfField (.version major) rest
  | _ => malformed "a directive"

/-- Read a handle and what it stands for. -/
def readHandleMeaning (cs : List Char) : Attempt Problem (Directive × List Char) := do
  let (name, rest) ← readHandle (← afterRun (· == ' ') cs)
  if (← head rest) == ' ' then
    let (expansion, rest) ← readSuffix (← afterRun (· == ' ') rest)
    endOfField (.handle name expansion) rest
  else malformed "a directive"

/-- Read what a directive of the given name says. -/
def readMeaning (name : String) (cs : List Char) : Attempt Problem (Directive × List Char) :=
  match name with
  | "YAML" => readVersion cs
  | "TAG" => readHandleMeaning cs
  | other => (Directive.other other, ·) <$> afterRun (!endsLine ·) cs

/-- Read a directive and the rest of its line. -/
def readDirective (cs : List Char) : Attempt Problem (Directive × List Char) := do
  let (name, rest) ← runOf isWordChar cs
  if name.isEmpty || !endsField (← head rest) then malformed "a directive"
  else
    let (directive, rest) ← readMeaning (String.ofList name) rest
    return (directive, ← skipLineEnd "a directive" rest)

end TableDdl.Yaml
