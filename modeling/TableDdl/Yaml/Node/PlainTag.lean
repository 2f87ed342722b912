import TableDdl.Yaml.Node

/-!
# Tags of plain scalars

The text of a plain scalar decides its tag: a truth value, a number, a date, nothing at all, or
else a text.
-/

namespace TableDdl.Yaml.PlainTag

/-- Divide a text after the longest run of characters of a kind. -/
def spanOf (kind : Char → Bool) (cs : List Char) : List Char × List Char :=
  (cs.takeWhile kind, cs.dropWhile kind)

/-- The text after a sign, if there is one. -/
def afterSign : List Char → List Char
  | '-' :: rest => rest
  | '+' :: rest => rest
  | rest => rest

/-- Whether the character is a digit or an underscore. -/
def isDigitOrMark (c : Char) : Bool :=
  c.isDigit || c == '_'

/-- Whether the text is a truth value, in lower or upper case or with a capital. -/
def isBool (text : String) : Bool :=
  ["yes", "Yes", "YES", "no", "No", "NO", "true", "True", "TRUE", "false", "False", "FALSE",
    "on", "On", "ON", "off", "Off", "OFF"].contains text

/-- Whether the text stands for nothing. -/
def isNull (text : String) : Bool :=
  ["~", "null", "Null", "NULL", ""].contains text

/-- Whether the text is empty or an exponent with its sign. -/
def isExponent : List Char → Bool
  | [] => true
  | e :: sign :: digits =>
    (e == 'e' || e == 'E') && (sign == '-' || sign == '+') && !digits.isEmpty &&
      digits.all Char.isDigit
  | _ => false

/-- The text after the groups of base sixty that follow a number, and whether there are any:
every group has one digit, or two of which the first is at most five. -/
def afterGroups : List Char → Bool × List Char
  | ':' :: a :: b :: rest =>
    if a.isDigit && b.isDigit && a ≤ '5' then (true, (afterGroups rest).2)
    else if a.isDigit then (true, (afterGroups (b :: rest)).2)
    else (false, ':' :: a :: b :: rest)
  | [':', a] => if a.isDigit then (true, []) else (false, [':', a])
  | rest => (false, rest)

/-- Whether the text is a number with a point and digits before it. -/
def isPointed (cs : List Char) : Bool :=
  match afterSign cs with
  | d :: rest =>
    d.isDigit &&
      match rest.dropWhile isDigitOrMark with
      | '.' :: rest => isExponent (rest.dropWhile isDigitOrMark)
      | _ => false
  | [] => false

/-- Whether the text is a number that begins with its point. -/
def isFraction : List Char → Bool
  | '.' :: d :: rest => d.isDigit && isExponent (rest.dropWhile isDigitOrMark)
  | _ => false

/-- Whether the text is a number in base sixty with a point. -/
def isPointedGroups (cs : List Char) : Bool :=
  match afterSign cs with
  | d :: rest =>
    d.isDigit &&
      match afterGroups (rest.dropWhile isDigitOrMark) with
      | (true, '.' :: rest) => rest.all isDigitOrMark
      | _ => false
  | [] => false

/-- Whether the text names an infinity or no number. -/
def isSpecial (cs : List Char) : Bool :=
  [".inf", ".Inf", ".INF"].contains (String.ofList (afterSign cs)) ||
    [".nan", ".NaN", ".NAN"].contains (String.ofList cs)

/-- Whether the text is a number with a fraction. -/
def isFloat (cs : List Char) : Bool :=
  isPointed cs || isFraction cs || isPointedGroups cs || isSpecial cs

/-- Whether a text is not empty and has characters of a kind only. -/
def isRunOf (kind : Char → Bool) (cs : List Char) : Bool :=
  !cs.isEmpty && cs.all kind

/-- Whether the text is a whole number: in base two, eight, ten, sixteen or sixty. -/
def isInt (cs : List Char) : Bool :=
  match afterSign cs with
  | ['0'] => true
  | '0' :: 'b' :: rest => isRunOf (fun c => c == '0' || c == '1' || c == '_') rest
  | '0' :: 'x' :: rest =>
    isRunOf
      (fun c => c.isDigit || ('a' ≤ c && c ≤ 'f') || ('A' ≤ c && c ≤ 'F') || c == '_') rest
  | '0' :: rest => rest.all fun c => ('0' ≤ c && c ≤ '7') || c == '_'
  | d :: rest =>
    d.isDigit &&
      match rest.dropWhile isDigitOrMark with
      | [] => true
      | rest => afterGroups rest == (true, [])
  | [] => false

/-- The parts of a date with an optional time, as they are written. -/
structure TimestampParts where
  year : List Char
  month : List Char
  day : List Char
  time : Option (List Char × List Char × List Char) := none
  fraction : List Char := []
  /-- The sign, the hours and the minutes of the distance from universal time; the hours and the
  minutes are empty if the distance is zero by its mark. -/
  zone : Option (Char × List Char × List Char) := none
  deriving Repr

/-- Divide a text after one or two digits. -/
def oneOrTwoDigits : List Char → Option (List Char × List Char)
  | a :: b :: rest =>
    if a.isDigit && b.isDigit then some ([a, b], rest)
    else if a.isDigit then some ([a], b :: rest) else none
  | [a] => if a.isDigit then some ([a], []) else none
  | [] => none

/-- Divide a text after two digits. -/
def twoDigits : List Char → Option (List Char × List Char)
  | a :: b :: rest => if a.isDigit && b.isDigit then some ([a, b], rest) else none
  | _ => none

/-- The text after a character. -/
def after? (c : Char) : List Char → Option (List Char)
  | d :: rest => if c = d then some rest else none
  | [] => none

/-- The distance from universal time at the end of a text. -/
def zoneParts (cs : List Char) : Option (Option (Char × List Char × List Char)) :=
  match cs.dropWhile fun c => c == ' ' || c == '\t' with
  | [] => if cs.isEmpty then some none else none
  | ['Z'] => some (some ('Z', [], []))
  | sign :: rest => do
    if sign ≠ '-' ∧ sign ≠ '+' then none
    let (hours, rest) ← oneOrTwoDigits rest
    match rest with
    | [] => some (some (sign, hours, []))
    | ':' :: rest => do
      let (minutes, rest) ← twoDigits rest
      if rest.isEmpty then some (some (sign, hours, minutes)) else none
    | _ => none

/-- The text after what stands between a date and a time. -/
def afterDateMark (cs : List Char) : Option (List Char) :=
  match cs with
  | 'T' :: rest => some rest
  | 't' :: rest => some rest
  | c :: rest =>
    if c == ' ' || c == '\t' then some (rest.dropWhile fun c => c == ' ' || c == '\t') else none
  | [] => none

/-- The parts of a date with an optional time. -/
def timestampParts? (cs : List Char) : Option TimestampParts := do
  let year := cs.take 4
  if year.length ≠ 4 ∨ !year.all Char.isDigit then none
  let rest ← after? '-' (cs.drop 4)
  let (month, rest) ← oneOrTwoDigits rest
  let rest ← after? '-' rest
  let (day, rest) ← oneOrTwoDigits rest
  if rest.isEmpty then return { year, month, day }
  let rest ← afterDateMark rest
  let (hour, rest) ← oneOrTwoDigits rest
  let rest ← after? ':' rest
  let (minute, rest) ← twoDigits rest
  let rest ← after? ':' rest
  let (second, rest) ← twoDigits rest
  let (fraction, rest) :=
    match rest with
    | '.' :: rest => spanOf Char.isDigit rest
    | rest => ([], rest)
  let zone ← zoneParts rest
  return { year, month, day, time := some (hour, minute, second), fraction, zone }

/-- Whether the text is a date or a moment. A date on its own has two digits for the month and
the day. -/
def isTimestamp (cs : List Char) : Bool :=
  match timestampParts? cs with
  | none => false
  | some parts => parts.time.isSome || (parts.month.length == 2 && parts.day.length == 2)

/-- The text without a line end behind it. -/
def withoutLineEnd (cs : List Char) : List Char :=
  if cs.getLast? = some '\n' then cs.dropLast else cs

/-- The tag that a text has if nothing else says so. A line end behind the text does not
matter, unless nothing else is there. -/
def ofText (text : String) : Tag :=
  let cs := withoutLineEnd text.toList
  let line := String.ofList cs
  if isBool line then .bool
  else if isFloat cs then .float
  else if isInt cs then .int
  else if line = "<<" then .merge
  else if isNull line ∧ text ≠ "\n" then .null
  else if isTimestamp cs then .timestamp
  else if line = "=" then .value
  else if ["!", "&", "*"].contains line then .other (commonTag ++ "yaml")
  else .str

end TableDdl.Yaml.PlainTag
