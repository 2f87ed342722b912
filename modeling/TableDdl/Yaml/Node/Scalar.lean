import TableDdl.Number.Decimal
import TableDdl.Number.Integer
import TableDdl.Text.Base64
import TableDdl.Text.Casing
import TableDdl.Value.Basic
import TableDdl.Yaml.Node.PlainTag

/-!
# Values of scalars

The tag of a scalar decides how its text becomes a value. A text that its tag does not admit is
a fault of that value, not of the document.
-/

namespace TableDdl.Yaml.Scalar

/-- A fault as a failure of the document. -/
def fault {α : Type} (f : Fault) : Attempt Problem α :=
  .error (.fault f)

/-- The truth value that a text names. -/
def boolOf (text : String) : Attempt Problem Value :=
  let word := Text.lower text
  if ["yes", "true", "on"].contains word then .ok (.bool true)
  else if ["no", "false", "off"].contains word then .ok (.bool false)
  else fault (.truthScalar word)

/-- The whole number of a text in a base. -/
def wholeOf (base : Nat) (cs : List Char) : Attempt Problem Int :=
  match Number.readInteger base cs with
  | .ok n => .ok n
  | .error .malformed => fault (.integerScalar base (String.ofList cs))
  | .error (.tooLong digits) => fault (.integerTooLong digits)

/-- Divide a text at its colons. -/
def splitColons : List Char → List (List Char)
  | [] => [[]]
  | c :: rest =>
    if c = ':' then [] :: splitColons rest
    else
      match splitColons rest with
      | [] => [[c]]
      | part :: parts => (c :: part) :: parts

/-- The magnitude of a whole number. What it begins with decides its base. -/
def magnitudeOf (cs : List Char) : Attempt Problem Int :=
  match cs with
  | [] => fault .emptyNumber
  | ['0'] => .ok 0
  | '0' :: 'b' :: rest => wholeOf 2 rest
  | '0' :: 'x' :: rest => wholeOf 16 rest
  | '0' :: _ => wholeOf 8 cs
  | _ =>
    if cs.contains ':' then do
      let digits ← (splitColons cs).mapM (wholeOf 10)
      return digits.foldl (fun n d => n * 60 + d) 0
    else wholeOf 10 cs

/-- Split a sign off a text that is not empty. -/
def signed (cs : List Char) : Attempt Problem (Bool × List Char) :=
  match cs with
  | [] => fault .emptyNumber
  | '-' :: rest => .ok (true, rest)
  | '+' :: rest => .ok (false, rest)
  | _ => .ok (false, cs)

/-- The whole number that a text stands for; underscores do not matter. -/
def intOf (text : String) : Attempt Problem Value := do
  let (negative, body) ← signed (text.toList.filter (· ≠ '_'))
  let n ← magnitudeOf body
  return .int (if negative then -n else n)

/-- The number of a text with a fraction or an exponent. -/
def decimalOf (cs : List Char) : Attempt Problem Binary64 :=
  match Number.decimal? cs with
  | some x => .ok x
  | none => fault (.floatScalar (String.ofList cs))

/-- A sum of digits in base sixty, the last digit first; `base` is the worth of the first of them.
A worth that no number can hold is a fault, whatever the digit is. -/
def sumOfSixties (sum : Binary64) (base : Int) : List Binary64 → Attempt Problem Binary64
  | [] => .ok sum
  | digit :: rest =>
    match Binary64.ofInt base with
    | .infinite _ => fault .beyondReals
    | worth => sumOfSixties (sum.add (digit.mul worth)) (base * 60) rest

/-- The number that a text stands for; underscores and case do not matter. The place of the text
marks what is not a number, unless the text names it. -/
def floatOf (place : Nat) (text : String) : Attempt Problem Value := do
  let cs := (Text.lower (String.ofList (text.toList.filter (· ≠ '_')))).toList
  let (negative, body) ← signed cs
  let word := String.ofList body
  if word = ".inf" then return .float (.infinite negative)
  else if word = ".nan" then return .float (.nan 0)
  else
    let x ←
      if body.contains ':' then do
        let digits ← (splitColons body).mapM decimalOf
        sumOfSixties .zero 1 digits.reverse
      else decimalOf body
    return .float ((if negative then x.neg else x).withMark (place + 1))

/-- The bytes that a text in base 64 stands for. -/
def binaryOf (text : String) : Attempt Problem Value :=
  if text.toList.all (·.toNat < 128) then
    match Text.Base64.decode text.toList with
    | some bytes => .ok (.bytes bytes)
    | none => refuse .base64
  else refuse .base64

/-- The number that decimal digits stand for. -/
def digitsOf (cs : List Char) : Nat :=
  cs.foldl (fun n d => n * 10 + (d.toNat - '0'.toNat)) 0

/-- The microseconds of a fraction; further digits do not matter. -/
def microsecondsOf (fraction : List Char) : Nat :=
  let digits := fraction.take 6
  digitsOf (digits ++ List.replicate (6 - digits.length) '0')

/-- The distance from universal time in minutes; it is less than a day. -/
def offsetOf (sign : Char) (hours minutes : List Char) : Except Fault Int :=
  let n : Int := digitsOf hours * 60 + digitsOf minutes
  let offset := if sign = '-' then -n else n
  if n < 1440 then .ok offset else .error (.calendar (.offset offset))

/-- A calendar error as a fault. -/
def calendar {α : Type} : Except CalendarError α → Except Fault α
  | .ok a => .ok a
  | .error e => .error (.calendar e)

/-- The date or the moment of parts as they are written. -/
def timestampOfParts (parts : PlainTag.TimestampParts) : Except Fault Value := do
  let date := Date.ofParts (digitsOf parts.year) (digitsOf parts.month) (digitsOf parts.day)
  match parts.time with
  | none => return .date (← calendar date)
  | some (hour, minute, second) =>
    let offset ←
      match parts.zone with
      | none => pure none
      | some (sign, hours, minutes) => pure (some (← offsetOf sign hours minutes))
    let moment := Moment.ofParts (← calendar date) (digitsOf hour) (digitsOf minute)
      (digitsOf second) (microsecondsOf parts.fraction) offset
    return .moment (← calendar moment)

/-- The date or the moment that a text stands for. -/
def timestampOf (text : String) : Attempt Problem Value :=
  match PlainTag.timestampParts? (PlainTag.withoutLineEnd text.toList) with
  | none => fault .momentScalar
  | some parts => timestampOfParts parts

/-- The value of a text under a tag, at a place of the document. -/
def valueOf (place : Nat) (tag : Tag) (text : String) : Attempt Problem Value :=
  match tag with
  | .null => .ok .null
  | .bool => boolOf text
  | .int => intOf text
  | .float => floatOf place text
  | .binary => binaryOf text
  | .timestamp => timestampOf text
  | .str => .ok (.str text)
  | .seq => refuse (.wrongKind "a sequence node")
  | .map => refuse (.wrongKind "a mapping node")
  | .merge => refuse (.undefinedTag (commonTag ++ "merge"))
  | .value => refuse (.undefinedTag (commonTag ++ "value"))
  | .other name => refuse (.undefinedTag name)

end TableDdl.Yaml.Scalar
